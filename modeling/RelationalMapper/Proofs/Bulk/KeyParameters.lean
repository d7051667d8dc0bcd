import RelationalMapper.Proofs.Bulk.Sending
import RelationalMapper.Proofs.Bulk.Single
import RelationalMapper.Proofs.Dialect.Update

/-! # What statements bind for keys

A statement tells by its text which of its parameters belong to keys. None of them is null, as long
as what an entity lacks of its keys is null itself: a value that only turns into null on its way to the
driver is not found missing. -/

namespace RelationalMapper

open RelationalMapper.Action

/-! ## Values that become null -/

namespace Scalar

@[simp] theorem unwrapped_eq_null {s : Scalar} : s.unwrapped = null ↔ s = null := by
  cases s with
  | null => exact Iff.rfl
  | machineMoment m => cases m <;> exact ⟨nofun, nofun⟩
  | _ => exact ⟨nofun, nofun⟩

@[simp] theorem withoutNanoseconds_eq_null {s : Scalar} : s.withoutNanoseconds = null ↔ s = null := by
  cases s <;> simp [withoutNanoseconds]

@[simp] theorem uuidAsText_eq_null {s : Scalar} : s.uuidAsText = null ↔ s = null := by
  cases s <;> simp [uuidAsText]

@[simp] theorem stored_eq_null {s : Scalar} : s.stored = null ↔ s = null := by
  cases s <;> simp [stored]

/-- Just what is missing becomes null. -/
theorem bound_eq_null {style : BindingStyle} {s : Scalar} :
    s.bound style = null ↔ s.isMissing = true := by
  unfold bound
  split
  · simp_all
  · have hpresent : s ≠ null := by
      rintro rfl
      contradiction
    cases style <;> simp_all

end Scalar

theorem Value.bound_eq_null {style : BindingStyle} {v : Value} :
    v.bound style = .null ↔ v.isMissing = true := by
  cases v with
  | scalar s => simp [Value.bound, Value.null, Value.isMissing, Scalar.bound_eq_null]
  | list items => simp [Value.bound, Value.null, Value.isMissing]

namespace Entity

/-- All these properties have values. -/
def Has (e : Entity) (properties : List String) : Prop :=
  ∀ p ∈ properties, (e.get p).isMissing = false

/-- What is missing among these properties is null itself. -/
def LacksPlainly (e : Entity) (properties : List String) : Prop :=
  ∀ p ∈ properties, (e.get p).isMissing = true → e.get p = .null

instance (e : Entity) : DecidablePred e.LacksPlainly := fun properties =>
  inferInstanceAs (Decidable (∀ p ∈ properties, (e.get p).isMissing = true → e.get p = .null))

theorem LacksPlainly.has {e : Entity} {properties : List String} (h : e.LacksPlainly properties)
    (hnull : ∀ p ∈ properties, e.get p ≠ .null) : e.Has properties := by
  intro p hp
  by_contra hmissing
  exact hnull p hp (h p hp (by simpa using hmissing))

end Entity

/-! ## Parameters by their places -/

/-- Runs of one length are found again as chunks. -/
theorem chunks_flatten {α : Type} {k : Nat} (hk : 0 < k) {rows : List (List α)}
    (h : ∀ row ∈ rows, row.length = k) : chunks k rows.flatten = rows := by
  induction rows with
  | nil => simp [chunks]
  | cons row rows ih =>
      have hrow := h row List.mem_cons_self
      have hrest := ih fun other ho => h other (List.mem_cons_of_mem row ho)
      obtain ⟨x, row, rfl⟩ := List.exists_cons_of_length_pos (hrow ▸ hk)
      rw [List.flatten_cons, List.cons_append, chunks_cons hk, ← List.cons_append, ← hrow,
        List.take_left, List.drop_left, hrow, hrest]

/-- How many parameters a statement takes in front of its condition. -/
def Sql.marksBeforeCondition (sql : String) : Nat :=
  ((words sql).takeWhile (· ≠ .symbol "WHERE")).count .mark

namespace TableMap

variable {m : TableMap} {d : Dialect}

/-- Properties of the keys. -/
def keyProperties (m : TableMap) : List String := m.keys.values.map (·.property)

/-- What an insertion gives to keys that the database does not make. Its parameters are rows of as
many values as it names columns, and each value is that of the property in its place. -/
def insertedKeys (m : TableMap) (sql : String) (params : List Value) : List Value :=
  (chunks (Sql.insertedColumns sql).length params).flatMap fun row =>
    ((m.insertProperties.names.zip row).filter fun (p, _) => p ∈ m.manualKeys).map (·.2)

/-- The parameters of a statement that belong to keys: those of an insertion by its columns, and all
that are taken by the condition of any other statement. -/
def keyParameters (m : TableMap) (sql : String) (params : List Value) : List Value :=
  if Sql.beginsWith "INSERT" sql then m.insertedKeys sql params
  else params.drop (Sql.marksBeforeCondition sql)

/-- Nothing that a call hands over binds null for a key, and an insertion names the columns of the
properties that it has values of. -/
def BindsKeys (m : TableMap) (d : Dialect) (call : Call) : Prop :=
  ∀ sent ∈ call.handed, ∃ sql ∈ d.received sent.1,
    (Sql.beginsWith "INSERT" sql = true → Sql.insertedColumns sql = m.insertProperties.values) ∧
    .null ∉ m.keyParameters sql sent.2

instance : DecidablePred (m.BindsKeys d) := fun call =>
  inferInstanceAs (Decidable (∀ sent ∈ call.handed, ∃ sql ∈ d.received sent.1,
    (Sql.beginsWith "INSERT" sql = true → Sql.insertedColumns sql = m.insertProperties.values) ∧
    .null ∉ m.keyParameters sql sent.2))

theorem bindsKeys_of_quiet {call : Call} (h : call.Quiet) : m.BindsKeys d call := by
  intro sent hsent
  rcases h with hcall | rfl
  · cases call <;> contradiction
  · obtain rfl : sent = (Keys.lastKeyQuery, []) := by simpa [Call.handed] using hsent
    have hreads : Sql.beginsWith "INSERT" Keys.lastKeyQuery = false := by decide +kernel
    refine ⟨Keys.lastKeyQuery, by cases d <;> decide +kernel, by simp [hreads], ?_⟩
    simp [keyParameters, hreads]

/-! ## Insertions -/

/-- Of each entity, an insertion binds the values of the keys among the properties that it inserts. -/
theorem insertedKeys_boundRows {sql : String}
    (hcolumns : Sql.insertedColumns sql = m.insertProperties.values)
    (hinsertable : m.insertProperties ≠ []) (entities : List Entity) :
    m.insertedKeys sql (m.boundRows d entities) = entities.flatMap fun e =>
      (m.insertProperties.names.filter (· ∈ m.manualKeys)).map fun p =>
        (e.get p).bound d.bindingStyle := by
  have hwidth : (Sql.insertedColumns sql).length = m.insertProperties.length := by
    rw [hcolumns, Entries.values, List.length_map]
  have hchunks : chunks (Sql.insertedColumns sql).length (m.boundRows d entities) =
      entities.map fun e => (m.insertRow e).map (·.bound d.bindingStyle) := by
    rw [boundRows, List.flatMap_def, hwidth]
    refine chunks_flatten (List.length_pos_iff.mpr hinsertable) fun row hrow => ?_
    obtain ⟨e, -, rfl⟩ := List.mem_map.mp hrow
    simp [insertRow, Entries.names]
  have hpairs : ∀ e, m.insertProperties.names.zip ((m.insertRow e).map (·.bound d.bindingStyle)) =
      m.insertProperties.names.map fun p => (p, (e.get p).bound d.bindingStyle) := by
    intro e
    have hzip := List.zip_map' (f := id) (g := fun p => (e.get p).bound d.bindingStyle)
      (l := m.insertProperties.names)
    simpa [insertRow, Function.comp_def] using hzip
  rw [insertedKeys, hchunks, List.flatMap_map]
  simp only [hpairs, List.filter_map, List.map_map]
  rfl

theorem null_not_mem_insertedKeys {sql : String} {entities : List Entity}
    (hcolumns : Sql.insertedColumns sql = m.insertProperties.values)
    (hinsertable : m.insertProperties ≠ []) (h : ∀ e ∈ entities, e.Has m.manualKeys) :
    .null ∉ m.insertedKeys sql (m.boundRows d entities) := by
  rw [insertedKeys_boundRows hcolumns hinsertable]
  intro hnull
  obtain ⟨e, he, hnull⟩ := List.mem_flatMap.mp hnull
  obtain ⟨p, hp, hbound⟩ := List.mem_map.mp hnull
  have hmanual : p ∈ m.manualKeys := of_decide_eq_true (List.mem_filter.mp hp).2
  have hmissing := Value.bound_eq_null.mp hbound
  rw [h e he p hmanual] at hmissing
  contradiction

/-- An insertion of rows binds keys if its entities have those that the database does not make. -/
theorem bindsKeys_insertion (hinsertable : m.insertProperties ≠ []) (entities : List Entity)
    (h : ∀ e ∈ entities, e.Has m.manualKeys) (rows : Nat) :
    m.BindsKeys d (.execute (d.standardize (m.insertText d rows))
      (some ((entities.flatMap m.insertRow).map (·.bound d.bindingStyle)))) := by
  have hcolumns : Sql.insertedColumns (m.insertText d rows) = m.insertProperties.values :=
    d.insertedColumns_renderInsertion _
  have hreads : Sql.beginsWith "INSERT" (m.insertText d rows) = true :=
    d.beginsWith_renderInsertion _
  intro sent hsent
  obtain rfl := List.mem_singleton.mp hsent
  refine ⟨m.insertText d rows, d.received_standardize _, fun _ => hcolumns, ?_⟩
  rw [keyParameters, if_pos hreads, Option.getD_some, List.map_flatMap]
  exact null_not_mem_insertedKeys hcolumns hinsertable h

/-- What is not refused for a key and lacks its keys plainly has all that are inserted. -/
theorem has_manualKeys {e : Entity} (hplain : e.LacksPlainly m.manualKeys)
    (hcheck : ¬m.LacksManualKey e) : e.Has m.manualKeys := by
  refine hplain.has fun p hp hnull => hcheck ?_
  obtain ⟨part, hpart, rfl⟩ := List.mem_map.mp hp
  obtain ⟨hkey, hmanual⟩ := List.mem_filter.mp hpart
  exact ⟨part, hkey, by simpa using hmanual, hnull⟩

/-! ## Updates and deletions -/

theorem beginsWith_updateText (m : TableMap) (d : Dialect) :
    Sql.beginsWith "INSERT" (m.updateText d) = false := by
  rw [Sql.beginsWith, updateText, (d.reads_renderUpdate m.keyedUpdate).words_eq d.quotes_mem_all]
  rfl

theorem keyParameters_updateText (m : TableMap) (d : Dialect) (assigned keys : List Value)
    (hassigned : assigned.length = m.updateProperties.length) :
    m.keyParameters (m.updateText d) (assigned ++ keys) = keys := by
  have hwords := (d.reads_renderUpdate m.keyedUpdate).words_eq d.quotes_mem_all
  have hmarks : Sql.marksBeforeCondition (m.updateText d) = assigned.length := by
    have hhead : ∀ word ∈ Dialect.assignmentHead m.table m.updateProperties.values,
        (word ≠ .symbol "WHERE") = true := by
      rintro word hword
      have hother : word ≠ .symbol "WHERE" := by
        rintro rfl
        exact Dialect.where_not_mem_assignmentHead _ _ hword
      simpa using hother
    rw [Sql.marksBeforeCondition, updateText, hwords]
    simp only [keyedUpdate]
    rw [List.takeWhile_append_of_pos (by simpa using hhead), List.takeWhile_cons_of_neg (by simp),
      List.append_nil, Dialect.count_mark_assignmentHead, hassigned, Entries.values, List.length_map]
  rw [keyParameters, if_neg (by simp [beginsWith_updateText]), hmarks, List.drop_left]

theorem keyParameters_renderDeletion (m : TableMap) (d : Dialect) (s : Deletion)
    (params : List Value) : m.keyParameters (d.renderDeletion s) params = params := by
  simp [keyParameters, Sql.beginsWith, Sql.marksBeforeCondition, d.words_renderDeletion s]

theorem has_keyProperties {e : Entity} (hplain : e.LacksPlainly m.keyProperties)
    (hcheck : ¬m.LacksKey e) : e.Has m.keyProperties := by
  refine hplain.has fun p hp hnull => hcheck ?_
  obtain ⟨part, hpart, rfl⟩ := List.mem_map.mp hp
  exact ⟨part, hpart, hnull⟩

theorem null_not_mem_boundKey {e : Entity} (h : e.Has m.keyProperties) : .null ∉ m.boundKey d e := by
  intro hnull
  obtain ⟨v, hv, hbound⟩ := List.mem_map.mp hnull
  obtain ⟨part, hpart, rfl⟩ := List.mem_map.mp hv
  have hmissing := Value.bound_eq_null.mp hbound
  rw [h part.property (List.mem_map.mpr ⟨part, hpart, rfl⟩)] at hmissing
  contradiction

/-- The values of keys that were not refused. -/
theorem of_keyValues_ok (hm : m.Coherent) {e : Entity} (hplain : e.LacksPlainly m.keyProperties)
    {operation : String} {params : List Value} (h : m.keyValues e operation = .ok params) :
    params = m.keyTuple e ∧ .null ∉ m.boundKey d e := by
  obtain ⟨hkeys, hkey⟩ := not_or.mp ((refuses_keyValues hm e operation).not_of_ok h)
  have hpresent : .null ∉ m.boundKey d e := null_not_mem_boundKey (has_keyProperties hplain hkey)
  rw [keyValues_eq hm hkeys (not_mem_keyTuple hpresent)] at h
  exact ⟨(Except.ok.inj h).symm, hpresent⟩

/-- What an update binds for its keys. -/
theorem null_not_mem_of_updateValues_ok (hm : m.Coherent) {e : Entity}
    (hplain : e.LacksPlainly m.keyProperties) {params : List Value}
    (h : m.updateValues e = .ok params) :
    .null ∉ m.keyParameters (m.updateText d) (params.map (·.bound d.bindingStyle)) := by
  rw [updateValues_eq hm] at h
  obtain ⟨keys, hkeys, rfl⟩ := map_eq_ok.mp h
  obtain ⟨rfl, hpresent⟩ := of_keyValues_ok hm (d := d) hplain hkeys
  rw [List.map_append, keyParameters_updateText m d _ _ (by simp [Entries.names])]
  exact hpresent

/-- A statement other than an insertion, sent once for each set of parameters. -/
theorem bindsKeys_of_handed {call : Call} {sql : String} (sets : List (List Value))
    (hcall : call.handed = sets.map (d.standardize sql, ·))
    (hreads : Sql.beginsWith "INSERT" sql = false)
    (h : ∀ params ∈ sets, .null ∉ m.keyParameters sql params) : m.BindsKeys d call := by
  intro sent hsent
  rw [hcall] at hsent
  obtain ⟨params, hparams, rfl⟩ := List.mem_map.mp hsent
  exact ⟨sql, d.received_standardize sql, by simp [hreads], h params hparams⟩

theorem bindsKeys_deletion {s : Deletion} {params : List Value}
    (h : .null ∉ params.map (·.bound d.bindingStyle)) :
    m.BindsKeys d (.execute (d.standardize (d.renderDeletion s))
      (some (params.map (·.bound d.bindingStyle)))) := by
  have hreads : Sql.beginsWith "INSERT" (d.renderDeletion s) = false := by
    simp [Sql.beginsWith, d.words_renderDeletion s]
  refine bindsKeys_of_handed [params.map (·.bound d.bindingStyle)] rfl hreads ?_
  intro given hgiven
  rw [List.mem_singleton.mp hgiven, keyParameters_renderDeletion]
  exact h

/-! ## Operations -/

/-- The operation is refused as a misuse and nothing happens, or all its calls bind keys. -/
def KeepsKeys {σ α : Type} (m : TableMap) (connection : σ → Connection) (s : σ) (a : Action σ α) :
    Prop :=
  (∃ cause, a.perform s = (.error (.misuse cause), s)) ∨
    ∃ calls, (connection (a.perform s).2).driver.trace = (connection s).driver.trace ++ calls ∧
      ∀ call ∈ calls, m.BindsKeys (connection s).dialect call

/-- A connection on which everything that is sent binds keys. -/
def keyTerms (m : TableMap) (c : Connection) : Terms :=
  { dialect := c.dialect, before := c.driver.trace, raises := fun _ => True
    sends := m.BindsKeys c.dialect }

theorem holds_keyTerms (m : TableMap) (c : Connection) : (m.keyTerms c).Holds c :=
  ⟨rfl, fun _ _ => ⟨fun _ _ => trivial, fun _ _ => trivial⟩, fun _ _ _ => trivial, [],
    (List.append_nil _).symm, by simp⟩

theorem keepsKeys_of_guarded {σ α : Type} {connection : σ → Connection} {s : σ} {a : Action σ α}
    {wrong : Prop} {I : σ → Prop} {P : Failure → Prop} {Q : α → Prop}
    (h : Guarded wrong I P Q s a)
    (hI : ∀ s', I s' → (m.keyTerms (connection s)).Holds (connection s')) :
    m.KeepsKeys connection s a := by
  by_cases hwrong : wrong
  · exact .inl (h.refused hwrong)
  · obtain ⟨calls, htrace, hcalls⟩ := (hI _ (h.leaves hwrong).1).serves.exists_calls
    exact .inr ⟨calls, htrace, fun call hcall => (hcalls call hcall).elim bindsKeys_of_quiet id⟩

/-- An operation on no entities does nothing. -/
theorem keepsKeys_of_unchanged {σ α : Type} {connection : σ → Connection} {s : σ} {a : Action σ α}
    (h : (a.perform s).2 = s) : m.KeepsKeys connection s a := by
  refine .inr ⟨[], ?_, by simp⟩
  rw [h, List.append_nil]

/-- How every operation on entities treats what they lack of their keys. -/
structure KeepsAllKeys (m : TableMap) (limit : ParameterLimit) (c : Connection) {κ : Type}
    [DecidableEq κ] (store : EntityStore κ) : Prop where
  /-- An insertion of one entity looks at no key. -/
  insert : ∀ e : Entity, e.Has m.manualKeys → m.KeepsKeys Prod.fst (c, e) m.insert
  insertAll : ∀ refs : List κ, (∀ ref ∈ refs, (store ref).LacksPlainly m.manualKeys) →
    m.KeepsKeys Prod.fst (c, store) (m.insertAll limit refs)
  update : ∀ e : Entity, e.LacksPlainly m.keyProperties → m.KeepsKeys id c (m.update e)
  updateAll : ∀ entities : List Entity, (∀ e ∈ entities, e.LacksPlainly m.keyProperties) →
    m.KeepsKeys id c (m.updateAll limit entities)
  delete : ∀ e : Entity, e.LacksPlainly m.keyProperties → m.KeepsKeys id c (m.delete e)
  deleteAll : ∀ entities : List Entity, (∀ e ∈ entities, e.LacksPlainly m.keyProperties) →
    m.KeepsKeys id c (m.deleteAll limit entities)

section Operations

variable (limit : ParameterLimit) (c : Connection)

theorem keepsKeys_insert (hm : m.Coherent) {e : Entity} (h : e.Has m.manualKeys) :
    m.KeepsKeys Prod.fst (c, e) m.insert := by
  refine keepsKeys_of_guarded (guarded_insert hm (m.holds_keyTerms c) fun hinsertable => ?_)
    fun s' hs' => hs'.1
  have hsent := bindsKeys_insertion (d := c.dialect) hinsertable [e] (by simpa using h) 1
  rwa [List.flatMap_singleton] at hsent

theorem keepsKeys_insertAll {κ : Type} [DecidableEq κ] (hm : m.Coherent) {store : EntityStore κ}
    {refs : List κ} (h : ∀ ref ∈ refs, (store ref).LacksPlainly m.manualKeys) :
    m.KeepsKeys Prod.fst (c, store) (m.insertAll limit refs) := by
  by_cases hrefs : refs = []
  · subst hrefs
    exact keepsKeys_of_unchanged rfl
  · refine keepsKeys_of_guarded (guarded_insertAll hm hrefs (m.holds_keyTerms c) limit
      fun hcheck chunk hchunk => ?_) fun s' hs' => hs'.1
    obtain ⟨-, hinsertable, hkeyed⟩ := by
      simpa only [not_or] using (refuses_checkInsertion hm _).not_of_ok hcheck
    have hpresent : ∀ e ∈ chunk.map store, e.Has m.manualKeys := by
      intro e he
      obtain ⟨ref, href, rfl⟩ := List.mem_map.mp he
      refine has_manualKeys (h ref (hchunk ref href)) fun hlacks => hkeyed ?_
      exact ⟨store ref, List.mem_map.mpr ⟨ref, hchunk ref href, rfl⟩, hlacks⟩
    have hsent := bindsKeys_insertion (d := c.dialect) hinsertable _ hpresent chunk.length
    rwa [List.flatMap_map] at hsent

theorem keepsKeys_update (hm : m.Coherent) {e : Entity} (h : e.LacksPlainly m.keyProperties) :
    m.KeepsKeys id c (m.update e) := by
  refine keepsKeys_of_guarded (guarded_update hm (m.holds_keyTerms c) fun params hparams => ?_)
    fun _ => id
  refine bindsKeys_of_handed [params.map (·.bound c.dialect.bindingStyle)] rfl
    (beginsWith_updateText m c.dialect) ?_
  intro given hgiven
  rw [List.mem_singleton.mp hgiven]
  exact null_not_mem_of_updateValues_ok hm h hparams

theorem keepsKeys_updateAll (hm : m.Coherent) {entities : List Entity}
    (h : ∀ e ∈ entities, e.LacksPlainly m.keyProperties) :
    m.KeepsKeys id c (m.updateAll limit entities) := by
  by_cases hentities : entities = []
  · subst hentities
    exact keepsKeys_of_unchanged rfl
  · refine keepsKeys_of_guarded (guarded_updateAll hm hentities (m.holds_keyTerms c) limit
      fun sets hsets chunk hchunk => ?_) fun _ => id
    have hkeyed := forall_of_mapM_ok (fun e he params hparams =>
      null_not_mem_of_updateValues_ok (d := c.dialect) hm (h e he) hparams) hsets
    refine bindsKeys_of_handed _ rfl (beginsWith_updateText m c.dialect) fun given hgiven => ?_
    obtain ⟨params, hparams, rfl⟩ := List.mem_map.mp hgiven
    exact hkeyed params (hchunk params hparams)

theorem keepsKeys_delete (hm : m.Coherent) {e : Entity} (h : e.LacksPlainly m.keyProperties) :
    m.KeepsKeys id c (m.delete e) := by
  refine keepsKeys_of_guarded (guarded_delete hm (m.holds_keyTerms c) fun params hparams => ?_)
    fun _ => id
  obtain ⟨rfl, hpresent⟩ := of_keyValues_ok (d := c.dialect) hm h hparams
  exact bindsKeys_deletion hpresent

theorem keepsKeys_deleteAll (hm : m.Coherent) {entities : List Entity}
    (h : ∀ e ∈ entities, e.LacksPlainly m.keyProperties) :
    m.KeepsKeys id c (m.deleteAll limit entities) := by
  by_cases hentities : entities = []
  · subst hentities
    exact keepsKeys_of_unchanged rfl
  · refine keepsKeys_of_guarded (guarded_deleteAll hm hentities (m.holds_keyTerms c) limit
      fun keys hkeys chunk hchunk => ?_) fun _ => id
    have hpresent : ∀ key ∈ keys, .null ∉ key.map (·.bound c.dialect.bindingStyle) := by
      refine forall_of_mapM_ok (fun e he key hkey => ?_) hkeys
      obtain ⟨rfl, hnull⟩ := of_keyValues_ok (d := c.dialect) hm (h e he) hkey
      exact hnull
    refine bindsKeys_deletion fun hnull => ?_
    obtain ⟨v, hv, hbound⟩ := List.mem_map.mp hnull
    obtain ⟨key, hkey, hmem⟩ := List.mem_flatten.mp hv
    exact hpresent key (hchunk key hkey) (List.mem_map.mpr ⟨v, hmem, hbound⟩)

end Operations

/-- No operation binds null for a key, as long as what is missing of it is null itself. -/
theorem Resolved.keepsAllKeys (hm : m.Resolved) (limit : ParameterLimit) (c : Connection) {κ : Type}
    [DecidableEq κ] (store : EntityStore κ) : m.KeepsAllKeys limit c store where
  insert _ h := keepsKeys_insert c hm.coherent h
  insertAll _ h := keepsKeys_insertAll limit c hm.coherent h
  update _ h := keepsKeys_update c hm.coherent h
  updateAll _ h := keepsKeys_updateAll limit c hm.coherent h
  delete _ h := keepsKeys_delete c hm.coherent h
  deleteAll _ h := keepsKeys_deleteAll limit c hm.coherent h

/-- A floating number that is a key of its own. -/
def depthKey : Hint := .annotated (.type .float) [.key { name := "depth", auto := false }]

def sampleNote : Hint := .annotated (.type .text) [.column { name := "note" }]

/-- A class whose key is a floating number. -/
def sampleClass : EntityClass :=
  { name := "Sample", marker := some "sample"
    lineage := [{ name := "Sample", defaults := [], construction := none
                  fields := [("depth", depthKey), ("note", sampleNote)] }] }

def sampleMap : TableMap :=
  { type := sampleClass, table := "sample"
    keys := [("depth", ⟨"depth", "depth", false⟩)]
    columns := [("depth", "depth"), ("note", "note")]
    fields := [("depth", depthKey), ("note", sampleNote)]
    details := [("depth", { property := "depth", name := "depth", nullable := false }),
      ("note", { property := "note", name := "note", length := 255 })] }

theorem resolved_sampleMap : sampleMap.Resolved := ⟨[], sampleClass, by simp [Catalog.Drafted], rfl⟩

def sample (depth : Value) : Entity :=
  { type := sampleClass, attributes := [("depth", depth), ("note", .text "silt")] }

/-- Samples by their depth, of which the third has none. -/
def sampleStore : EntityStore Nat := fun n => sample (if n = 3 then .null else .int n)

theorem keepsAllKeys_samples :
    let c : Connection := { dialect := .postgres }
    (∀ e ∈ [1, 2, 3].map sampleStore, e.LacksPlainly sampleMap.keyProperties) ∧
      sampleMap.KeepsAllKeys ⟨2, by decide⟩ c sampleStore ∧
      sampleMap.KeepsKeys id c (sampleMap.updateAll ⟨2, by decide⟩ ([1, 2, 3].map sampleStore)) := by
  intro c
  have hplain : ∀ e ∈ [1, 2, 3].map sampleStore, e.LacksPlainly sampleMap.keyProperties := by
    decide
  have hkept : sampleMap.KeepsAllKeys ⟨2, by decide⟩ c sampleStore :=
    resolved_sampleMap.keepsAllKeys ⟨2, by decide⟩ c sampleStore
  exact ⟨hplain, hkept, hkept.updateAll _ hplain⟩

/-- An operation that ended well with a call that does not bind keys. -/
theorem not_keepsKeys {σ α : Type} {connection : σ → Connection} {s : σ} {a : Action σ α} {x : α}
    (hok : (a.perform s).1 = .ok x) {calls : List Call}
    (htrace : (connection (a.perform s).2).driver.trace = (connection s).driver.trace ++ calls)
    (hcall : ∃ call ∈ calls, ¬m.BindsKeys (connection s).dialect call) :
    ¬m.KeepsKeys connection s a := by
  rintro (⟨cause, h⟩ | ⟨calls', htrace', hcalls⟩)
  · rw [h] at hok
    contradiction
  · obtain rfl : calls' = calls := List.append_cancel_left (htrace'.symm.trans htrace)
    obtain ⟨call, hmem, hnot⟩ := hcall
    exact hnot (hcalls call hmem)

/-- A depth that is not a number is not found missing, and the deletion is sent with null. An
insertion of a single sample is sent even with null itself. -/
theorem binds_null_depth :
    let c : Connection := { dialect := .sqlite }
    ¬sampleMap.KeepsKeys id c (sampleMap.delete (sample (.scalar (.float .nan)))) ∧
      ¬sampleMap.KeepsKeys Prod.fst (c, sample .null) sampleMap.insert := by
  refine ⟨not_keepsKeys (x := 1) rfl (List.nil_append _).symm ?_,
    not_keepsKeys (x := 1) rfl (List.nil_append _).symm ?_⟩
  · decide +kernel
  · decide +kernel

end TableMap

end RelationalMapper
