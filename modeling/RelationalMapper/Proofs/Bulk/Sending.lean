import RelationalMapper.Proofs.Bulk.Deletion
import RelationalMapper.Proofs.Channel.Terms

/-! # What writing entities checks and sends

Each operation checks what it is given before anything is sent, and sends its statements under
whatever terms admit them. A value that the database makes for a key does not change what later chunks
send. -/

namespace RelationalMapper.TableMap

open RelationalMapper.Action

variable {α : Type} {m : TableMap}

/-! ## Checks -/

/-- One of the entities is of another class. -/
def MixesTypes (m : TableMap) (entities : List Entity) : Prop := ∃ e ∈ entities, e.type ≠ m.type

/-- A key is null. -/
def LacksKey (m : TableMap) (e : Entity) : Prop :=
  ∃ part ∈ m.keys.values, e.get part.property = .null

/-- A key that the database does not make is null. -/
def LacksManualKey (m : TableMap) (e : Entity) : Prop :=
  ∃ part ∈ m.keys.values, part.auto = false ∧ e.get part.property = .null

theorem refuses_checkTypes (m : TableMap) (entities : List Entity) :
    Refuses (m.MixesTypes entities) (m.checkTypes entities) := by
  unfold checkTypes
  split
  · rename_i e he
    have htype : e.type ≠ m.type := by simpa using List.find?_some he
    exact ⟨fun _ => ⟨_, rfl⟩, fun hnot => absurd ⟨e, List.mem_of_find?_eq_some he, htype⟩ hnot⟩
  · rename_i hnone
    refine ⟨fun ⟨e, he, htype⟩ => ?_, fun _ => ⟨(), rfl⟩⟩
    have hsame := List.find?_eq_none.mp hnone e he
    simp [htype] at hsame

theorem refuses_checkInsertable (m : TableMap) :
    Refuses (m.insertProperties = []) m.checkInsertable :=
  (refuses_ite _ (refuses_ok ())).congr (by simp)

theorem refuses_checkKeyed (m : TableMap) : Refuses (m.keys = []) m.checkKeyed :=
  (refuses_ite _ (refuses_ok ())).congr (by simp)

theorem refuses_checkUpdatable (m : TableMap) :
    Refuses (m.keys = [] ∨ m.updateProperties = []) m.checkUpdatable :=
  (refuses_ite _ (refuses_ite _ (refuses_ok ()))).congr (by simp)

/-- The value of a field is looked at, and refused if it is null. -/
theorem refuses_null {p : String} (hp : ∃ hint, m.fields.get? p = some hint) (e : Entity)
    (cause : Misuse) {x : Value → α} :
    Refuses (e.get p = .null) (do
      let value ← m.value e p
      if value = .null then .error (.misuse cause) else .ok (x value)) := by
  rw [value_eq hp e]
  exact (refuses_ite cause (refuses_ok (x (e.get p)))).congr (by simp)

theorem refuses_checkManualKeys (hm : m.Coherent) (e : Entity) :
    Refuses (m.LacksManualKey e) (m.checkManualKeys e) := by
  have hkey : ∀ p ∈ m.manualKeys, ∃ hint, m.fields.get? p = some hint := by
    intro p hp
    obtain ⟨part, hpart, rfl⟩ := List.mem_map.mp hp
    exact hm.field_of_key (List.mem_filter.mp hpart).1
  refine (refuses_forM fun p hp => refuses_null (hkey p hp) e _).congr ?_
  simp [manualKeys, LacksManualKey, and_assoc]

theorem refuses_keyValues (hm : m.Coherent) (e : Entity) (operation : String) :
    Refuses (m.keys = [] ∨ m.LacksKey e) (m.keyValues e operation) :=
  refuses_ite _ (refuses_mapM fun _ hpart => refuses_null (hm.field_of_key hpart) e _)

/-- What an update assigns, and then the keys. -/
theorem updateValues_eq (hm : m.Coherent) (e : Entity) :
    m.updateValues e =
      (m.keyValues e updateOperation).map (m.updateProperties.names.map e.get ++ ·) := by
  have hassigned : m.updateProperties.names.mapM (m.value e) =
      .ok (m.updateProperties.names.map e.get) :=
    mapM_eq_pure fun p hp => value_eq (hm.field_of_update hp) e
  rw [updateValues, hassigned]
  cases m.keyValues e updateOperation <;> rfl

theorem refuses_updateValues (hm : m.Coherent) (e : Entity) :
    Refuses (m.keys = [] ∨ m.LacksKey e) (m.updateValues e) := by
  rw [updateValues_eq hm]
  exact (refuses_keyValues hm e updateOperation).map _

theorem refuses_checkInsertion (hm : m.Coherent) (entities : List Entity) :
    Refuses (m.MixesTypes entities ∨ m.insertProperties = [] ∨ ∃ e ∈ entities, m.LacksManualKey e)
      (m.checkInsertion entities) :=
  (m.refuses_checkTypes entities).bind fun _ _ => m.refuses_checkInsertable.bind fun _ _ =>
    refuses_forM fun e _ => refuses_checkManualKeys hm e

/-! ## Insertions -/

section Insertions

variable {t : Terms}

/-- What an insertion is told, where a key that is missing is no misuse. -/
theorem leaves_sendInsertion {ch : Channel} {params : List Value} (hch : t.Binds ch)
    (hsends : t.Sends ch.statement.sql params) :
    Leaves t.Binds t.Allows (fun told => ∀ key ∈ told.2, FailsOnly t.Allows key) ch
      (m.sendInsertion params) := by
  let ready : Channel := { ch with statement := ch.statement.bindAll params }
  have hready : t.Binds ready := hch
  have hparams : ready.statement.parameters = .ok params := ch.statement.parameters_bindAll params
  refine leaves_bind_of_ok (perform_get ch) ?_
  simp only
  refine leaves_bind_of_ok (Channel.perform_change (·.bindAll params) ch) ?_
  split
  · refine (Terms.leaves_executeQuery hready hparams hsends).bind fun rows _ => preserves_pure ?_
    intro key hkey
    obtain ⟨row, -, rfl⟩ := List.mem_map.mp hkey
    cases row with
    | nil => exact failsOnly_error trivial
    | cons entry row => exact failsOnly_ok _
  · refine (Terms.leaves_executeUpdate hready hparams hsends).bind fun count _ => ?_
    split
    · exact preserves_pure (by simp)
    · refine Terms.preserves_generatedKeys.bind fun keys _ => preserves_pure ?_
      intro key hkey
      obtain ⟨value, -, rfl⟩ := List.mem_map.mp hkey
      exact failsOnly_ok value

theorem allows_converted (t : Terms) (v : Value) (target : NativeType) :
    FailsOnly t.Allows (v.converted target) := by
  unfold Value.converted
  split
  · exact failsOnly_ok v
  · split
    · exact failsOnly_error trivial
    · simp only
      split
      · exact failsOnly_ok _
      · exact failsOnly_error trivial

theorem allows_withKey {key : Except Failure Value} (hkey : FailsOnly t.Allows key) (e : Entity) :
    FailsOnly t.Allows (m.withKey e key) := by
  refine hkey.bind fun value => ?_
  split
  · refine FailsOnly.bind ?_ fun hint => FailsOnly.bind ?_ fun _ => failsOnly_ok _
    · unfold requireField
      cases m.fields.get? _ with
      | none => exact failsOnly_error trivial
      | some hint => exact failsOnly_ok hint
    · unfold Hint.convert
      split
      · exact allows_converted t value _
      · exact failsOnly_ok value
  · exact failsOnly_ok e

/-- Inserting an entity is refused if there is nothing to insert. -/
theorem guarded_insert (hm : m.Coherent) {c : Connection} (hc : t.Holds c) {e : Entity}
    (hsends : m.insertProperties ≠ [] → t.Sends (m.insertText t.dialect 1) (m.insertRow e)) :
    Guarded (m.insertProperties = []) (fun p => t.Holds p.1 ∧ True) t.Allows (fun _ => True) (c, e)
      m.insert := by
  refine guarded_bind_of_ok (perform_get _) ?_
  simp only [insertValues_eq hm e]
  refine (guarded_check m.refuses_checkInsertable fun _ hcheck =>
    guarded_bind_of_ok (perform_ofExcept _ _) (guarded_of_leaves ?_)).congr (by simp)
  have hinsertable : m.insertProperties ≠ [] := m.refuses_checkInsertable.not_of_ok hcheck
  rw [hc.dialect_eq]
  refine Terms.leaves_withStatement (K := fun _ => True) ?_
  refine ((leaves_sendInsertion hc (hsends hinsertable)).first (J := fun _ => True) trivial).bind
    fun (count, keys) hkeys => ?_
  cases keys with
  | nil => exact preserves_pure trivial
  | cons key keys =>
      have hkey := allows_withKey (m := m) (hkeys key List.mem_cons_self) e
      exact (preserves_ofExcept (Q := fun _ => True) (fun _ _ => trivial) hkey).bind fun keyed _ =>
        (preserves_set (I := fun _ => True) trivial).second.bind fun _ _ => preserves_pure trivial

/-! ### Chunks of insertions -/

variable {κ : Type} [DecidableEq κ] {start store : EntityStore κ}

/-- Insertions bind the same for the entities of both stores. -/
def SameRows (m : TableMap) (start store : EntityStore κ) : Prop :=
  ∀ ref, m.insertRow (store ref) = m.insertRow (start ref)

theorem preserves_assignKeys (refs : List κ) {keys : List (Except Failure Value)}
    (hkeys : ∀ key ∈ keys, FailsOnly t.Allows key) :
    Preserves (m.SameRows start) t.Allows (fun _ => True) (m.assignKeys refs keys) := by
  refine preserves_forM fun (ref, key) hpair => preserves_get.bind fun store hstore => ?_
  have hkey := allows_withKey (m := m) (hkeys key (List.of_mem_zip hpair).2) (store ref)
  refine Preserves.bind (Q := fun e => m.insertRow e = m.insertRow (store ref))
    (preserves_ofExcept (fun _ he => insertRow_of_withKey he) hkey) fun keyed hkeyed =>
      preserves_set fun other => ?_
  by_cases hother : other = ref
  · rw [hother, EntityStore.put_self, hkeyed, hstore]
  · rw [EntityStore.put_of_ne _ _ hother, hstore]

/-- A chunk sends what its entities had when the first chunk was sent. -/
theorem preserves_insertChunk (hm : m.Coherent) {refs : List κ}
    (hsends : t.Sends (m.insertText t.dialect refs.length)
      (refs.flatMap fun ref => m.insertRow (start ref))) :
    Preserves (fun p => t.Holds p.1 ∧ m.SameRows start p.2) t.Allows (fun _ => True)
      (m.insertChunk refs) := by
  rintro ⟨c, store⟩ ⟨hc, hstore⟩
  have hvalues : refs.mapM (fun ref => m.insertValues (store ref)) =
      .ok (refs.map fun ref => m.insertRow (start ref)) :=
    mapM_eq_pure fun ref _ => by rw [insertValues_eq hm, hstore]; rfl
  have hd : c.dialect = t.dialect := hc.dialect_eq
  rw [← hd] at hsends
  refine leaves_bind_of_ok (perform_get _) ?_
  simp only [hvalues]
  refine leaves_bind_of_ok (perform_ofExcept _ _) (Terms.leaves_withStatement ?_)
  refine ((leaves_sendInsertion hc ?_).first hstore).bind fun (count, keys) hkeys =>
    (preserves_assignKeys refs hkeys).second.bind fun _ _ => preserves_pure trivial
  rwa [← List.flatMap_def]

/-- What every chunk preserves that is part of the list, the list does. -/
theorem preserves_inChunks {σ β : Type} {I : σ → Prop} {P : Failure → Prop} {items : List β}
    {send : List β → Action σ Int}
    (h : ∀ chunk, (∀ x ∈ chunk, x ∈ items) → Preserves I P (fun _ => True) (send chunk))
    (size : Nat) : Preserves I P (fun _ => True) (inChunks size items send) := by
  refine preserves_foldlM (R := fun _ => True) (fun total chunk _ hchunk => ?_) trivial
  have hpart : ∀ x ∈ chunk, x ∈ items := by
    intro x hx
    rw [← flatten_chunks size items]
    exact List.mem_flatten.mpr ⟨chunk, hchunk, hx⟩
  exact (h chunk hpart).bind fun _ _ => preserves_pure trivial

theorem guarded_insertAll (hm : m.Coherent) {refs : List κ} (hrefs : refs ≠ []) {c : Connection}
    (hc : t.Holds c) (limit : ParameterLimit)
    (hsends : m.checkInsertion (refs.map store) = .ok () →
      ∀ chunk : List κ, (∀ ref ∈ chunk, ref ∈ refs) → t.Sends (m.insertText t.dialect chunk.length)
        (chunk.flatMap fun ref => m.insertRow (store ref))) :
    Guarded (m.MixesTypes (refs.map store) ∨ m.insertProperties = [] ∨
        ∃ e ∈ refs.map store, m.LacksManualKey e)
      (fun p => t.Holds p.1 ∧ m.SameRows store p.2) t.Allows (fun _ => True) (c, store)
      (m.insertAll limit refs) := by
  have hnonempty : refs.isEmpty = false := by simpa using hrefs
  simp only [insertAll, hnonempty]
  refine guarded_bind_of_ok (perform_get _) ((guarded_check (refuses_checkInsertion hm _)
    fun _ hcheck => guarded_of_leaves ?_).congr (by rw [or_false]))
  have hchunks := preserves_inChunks (fun chunk hchunk =>
    preserves_insertChunk hm (hsends hcheck chunk hchunk)) (limit.rows m.insertProperties.length)
  exact hchunks (c, store) ⟨hc, fun _ => rfl⟩

end Insertions

/-! ## Updates -/

section Updates

variable {t : Terms} {c : Connection}

theorem guarded_update (hm : m.Coherent) (hc : t.Holds c) {e : Entity}
    (hsends : ∀ params, m.updateValues e = .ok params → t.Sends (m.updateText t.dialect) params) :
    Guarded (m.keys = [] ∨ m.updateProperties = [] ∨ m.LacksKey e) t.Holds t.Allows (fun _ => True) c
      (m.update e) := by
  refine (guarded_check m.refuses_checkUpdatable fun _ _ =>
    guarded_check (refuses_updateValues hm e) fun params hparams =>
      guarded_bind_of_ok (perform_get c) (guarded_of_leaves ?_)).congr (by tauto)
  rw [hc.dialect_eq]
  exact Terms.leaves_execute hc (hsends params hparams)

/-- Sets of parameters are queued one after the other. -/
theorem perform_queue (sets : List (List Value)) (ch : Channel) :
    ∃ s, (sets.forM fun params =>
        Channel.changeIfPossible (·.bindAll params |>.addBatch)).perform ch =
          (.ok (), ⟨ch.connection, s⟩) ∧
      s.sql = ch.statement.sql ∧ s.batch = ch.statement.batch ++ sets ∧
      s.cursor = ch.statement.cursor := by
  induction sets generalizing ch with
  | nil => exact ⟨ch.statement, rfl, rfl, by simp, rfl⟩
  | cons params sets ih =>
      let queued : Statement :=
        { ch.statement with batch := ch.statement.batch ++ [params], slots := [] }
      obtain ⟨s, hrest, hsql, hbatch, hcursor⟩ := ih { ch with statement := queued }
      have hqueued : (ch.statement.bindAll params).addBatch = .ok queued := by
        rw [Statement.addBatch, Statement.parameters_bindAll]
        rfl
      have hchanged : (Channel.changeIfPossible (·.bindAll params |>.addBatch)).perform ch =
          (.ok (), { ch with statement := queued }) := by
        simp [Channel.changeIfPossible, perform_bind, hqueued, Channel.perform_change]
      exact ⟨s, (perform_bind_ok hchanged).trans hrest, hsql, by simpa [queued] using hbatch,
        hcursor⟩

theorem preserves_updateChunk {sets : List (List Value)}
    (hsends : t.sends (.executeMany (t.dialect.standardize (m.updateText t.dialect))
      (sets.map fun params => params.map (·.bound t.dialect.bindingStyle)))) :
    Preserves t.Holds t.Allows (fun _ => True) (m.updateChunk sets) := by
  intro c hc
  refine leaves_bind_of_ok (perform_get c) (Terms.leaves_onStatement ?_)
  obtain ⟨s, hqueue, hsql, hbatch, -⟩ := perform_queue sets
    ⟨c, { sql := m.updateText c.dialect, operation := updateOperation }⟩
  refine leaves_bind_of_ok hqueue (Terms.leaves_executeBatch hc ?_)
  simp only [hsql, hbatch, List.nil_append, hc.dialect_eq]
  exact hsends

theorem guarded_updateAll (hm : m.Coherent) {entities : List Entity} (hentities : entities ≠ [])
    (hc : t.Holds c) (limit : ParameterLimit)
    (hsends : ∀ sets, entities.mapM m.updateValues = .ok sets →
      ∀ chunk : List (List Value), (∀ params ∈ chunk, params ∈ sets) →
        t.sends (.executeMany (t.dialect.standardize (m.updateText t.dialect))
          (chunk.map fun params => params.map (·.bound t.dialect.bindingStyle)))) :
    Guarded (m.MixesTypes entities ∨ m.keys = [] ∨ m.updateProperties = [] ∨
        ∃ e ∈ entities, m.LacksKey e) t.Holds t.Allows (fun _ => True) c
      (m.updateAll limit entities) := by
  have hnonempty : entities.isEmpty = false := by simpa using hentities
  simp only [updateAll, hnonempty]
  refine (guarded_check (m.refuses_checkTypes entities) fun _ _ =>
    guarded_check m.refuses_checkUpdatable fun _ _ =>
      guarded_check (refuses_mapM fun e _ => refuses_updateValues hm e) fun sets hsets =>
        guarded_of_leaves ?_).congr ?_
  · exact preserves_inChunks
      (fun chunk hchunk => preserves_updateChunk (hsends sets hsets chunk hchunk))
      (limit.rows m.updateWidth) c hc
  · grind

end Updates

/-! ## Deletions -/

section Deletions

variable {t : Terms} {c : Connection}

theorem guarded_delete (hm : m.Coherent) (hc : t.Holds c) {e : Entity}
    (hsends : ∀ params, m.keyValues e deleteOperation = .ok params →
      t.Sends (t.dialect.renderDeletion { table := m.table, rows := .byKey m.keyColumns }) params) :
    Guarded (m.keys = [] ∨ m.LacksKey e) t.Holds t.Allows (fun _ => True) c (m.delete e) := by
  refine (guarded_check (refuses_keyValues hm e deleteOperation) fun params hparams =>
    guarded_bind_of_ok (perform_get c) (guarded_of_leaves ?_)).congr (by rw [or_false])
  rw [hc.dialect_eq]
  exact Terms.leaves_execute hc (hsends params hparams)

theorem preserves_deleteChunk {keys : List (List Value)}
    (hsends : t.Sends (m.deleteText t.dialect keys.length) keys.flatten) :
    Preserves t.Holds t.Allows (fun _ => True) (m.deleteChunk keys) := by
  intro c hc
  refine leaves_bind_of_ok (perform_get c) ?_
  rw [hc.dialect_eq]
  exact Terms.leaves_execute hc hsends

theorem guarded_deleteAll (hm : m.Coherent) {entities : List Entity} (hentities : entities ≠ [])
    (hc : t.Holds c) (limit : ParameterLimit)
    (hsends : ∀ keys, entities.mapM (m.keyValues · deleteOperation) = .ok keys →
      ∀ chunk : List (List Value), (∀ key ∈ chunk, key ∈ keys) →
        t.Sends (m.deleteText t.dialect chunk.length) chunk.flatten) :
    Guarded (m.MixesTypes entities ∨ m.keys = [] ∨ ∃ e ∈ entities, m.LacksKey e) t.Holds t.Allows
      (fun _ => True) c (m.deleteAll limit entities) := by
  have hnonempty : entities.isEmpty = false := by simpa using hentities
  simp only [deleteAll, hnonempty]
  refine (guarded_check (m.refuses_checkTypes entities) fun _ _ =>
    guarded_check m.refuses_checkKeyed fun _ _ =>
      guarded_check (refuses_mapM fun e _ => refuses_keyValues hm e _) fun keys hkeys =>
        guarded_of_leaves ?_).congr ?_
  · exact preserves_inChunks
      (fun chunk hchunk => preserves_deleteChunk (hsends keys hkeys chunk hchunk))
      (limit.rows m.keys.length) c hc
  · grind

end Deletions

end RelationalMapper.TableMap
