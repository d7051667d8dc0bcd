import RelationalMapper.Proofs.Bulk.Sending
import RelationalMapper.Proofs.Channel.Names
import RelationalMapper.Proofs.Session.Lookup

/-! # Mappings that were accepted

A mapping is accepted by the names under which its keys and its details stand, while what is done with
entities follows the properties of its keys. Where these have columns, no operation fails for a name that
is not known; where one has none, the mapping is accepted and resolved all the same, and an entity cannot
be deleted. -/

namespace RelationalMapper

open RelationalMapper.Action

theorem Refuses.namesKnown {α : Type} {wrong : Prop} {r : Except Failure α} (h : Refuses wrong r) :
    FailsOnly NamesKnown r := by
  rintro e rfl
  by_cases hwrong : wrong
  · obtain ⟨cause, hcause⟩ := h.misuse hwrong
    rw [Except.error.inj hcause]
    simp [NamesKnown]
  · obtain ⟨x, hx⟩ := h.passes hwrong
    contradiction

theorem Hint.namesKnown_convert (h : Hint) (v : Value) : FailsOnly NamesKnown (h.convert v) := by
  unfold Hint.convert Value.converted
  split
  · split
    · exact failsOnly_ok v
    · split
      · exact failsOnly_error (by simp [NamesKnown])
      · simp only
        split
        · exact failsOnly_ok _
        · exact failsOnly_error (by simp [NamesKnown])
  · exact failsOnly_ok v

namespace TableMap

/-- The columns belong to fields, and the keys are properties that have columns. -/
structure Grounded (m : TableMap) : Prop where
  field_of_column : ∀ p, m.columns.has p = true → ∃ hint, m.fields.get? p = some hint
  column_of_part : ∀ part ∈ m.keys.values, m.columns.has part.property = true

namespace Grounded

variable {m : TableMap}

theorem value_of_part (hm : m.Grounded) {part : KeyPart} (h : part ∈ m.keys.values) (e : Entity) :
    m.value e part.property = .ok (e.get part.property) :=
  value_eq (hm.field_of_column _ (hm.column_of_part part h)) e

theorem value_of_mapped (hm : m.Grounded) {entry : String × String} (h : entry ∈ m.mapped)
    (e : Entity) : m.value e entry.1 = .ok (e.get entry.1) := by
  refine value_eq (hm.field_of_column _ ((Entries.has_iff_mem_names _ _).mpr ?_)) e
  exact List.mem_map_of_mem (List.mem_filter.mp h).1

/-! ## Values and keys -/

theorem namesKnown_insertValues (hm : m.Grounded) (e : Entity) :
    FailsOnly NamesKnown (m.insertValues e) := by
  refine failsOnly_mapM fun p hp => ?_
  obtain ⟨entry, hentry, rfl⟩ := List.mem_map.mp hp
  rw [hm.value_of_mapped (mapped_of_mem_insertProperties hentry)]
  exact failsOnly_ok _

theorem namesKnown_keyValues (hm : m.Grounded) (e : Entity) (operation : String) :
    FailsOnly NamesKnown (m.keyValues e operation) := by
  unfold keyValues
  split
  · exact failsOnly_error (by simp [NamesKnown])
  · refine failsOnly_mapM fun part hpart => ?_
    rw [hm.value_of_part hpart]
    exact (refuses_ite _ (refuses_ok _)).namesKnown

theorem namesKnown_updateValues (hm : m.Grounded) (e : Entity) :
    FailsOnly NamesKnown (m.updateValues e) := by
  refine (hm.namesKnown_keyValues e updateOperation).bind fun keys =>
    (failsOnly_mapM fun p hp => ?_).bind fun _ => failsOnly_ok _
  obtain ⟨entry, hentry, rfl⟩ := List.mem_map.mp hp
  rw [hm.value_of_mapped (mapped_of_mem_updateProperties hentry)]
  exact failsOnly_ok _

theorem namesKnown_checkInsertion (hm : m.Grounded) (entities : List Entity) :
    FailsOnly NamesKnown (m.checkInsertion entities) := by
  refine (m.refuses_checkTypes entities).namesKnown.bind fun _ =>
    m.refuses_checkInsertable.namesKnown.bind fun _ => ?_
  have hkey : ∀ p ∈ m.manualKeys, ∃ hint, m.fields.get? p = some hint := by
    intro p hp
    obtain ⟨part, hpart, rfl⟩ := List.mem_map.mp hp
    exact hm.field_of_column _ (hm.column_of_part part (List.mem_filter.mp hpart).1)
  exact (refuses_forM fun e _ =>
    refuses_forM fun p hp => refuses_null (hkey p hp) e _).namesKnown

theorem column_of_singleAutoKey? (hm : m.Grounded) {part : KeyPart}
    (h : m.singleAutoKey? = some part) : m.columns.has part.property = true := by
  unfold singleAutoKey? at h
  split at h
  · exact hm.column_of_part part (List.mem_of_find?_eq_some h)
  · contradiction

/-- A key that the database made enters the field of the automatic key. -/
theorem namesKnown_withKey (hm : m.Grounded) {key : Except Failure Value}
    (hkey : FailsOnly NamesKnown key) (e : Entity) : FailsOnly NamesKnown (m.withKey e key) := by
  refine hkey.bind fun value => ?_
  split
  · rename_i part hpart
    obtain ⟨hint, hhint⟩ := hm.field_of_column _ (hm.column_of_singleAutoKey? hpart)
    have hrequired : m.requireField part.property = .ok hint := by simp [requireField, hhint]
    rw [assignKey, hrequired]
    exact (hint.namesKnown_convert value).bind fun _ => failsOnly_ok _
  · exact failsOnly_ok e

/-- The definition of a key that is numbered in it is that of its column. -/
theorem namesKnown_createTable (hm : m.Grounded) (d : Dialect) (guarded : Bool) :
    FailsOnly NamesKnown (d.createTable m guarded) := by
  intro e he
  have hinline : d.inlineKey? m = .error e := by
    simpa only [Dialect.createTable, Dialect.elements, map_eq_error] using he
  unfold Dialect.inlineKey? at hinline
  split at hinline
  · rename_i part hpart
    obtain ⟨column, hcolumn⟩ := (Entries.has_iff_exists _ _).mp (hm.column_of_singleAutoKey? hpart)
    simp [detail?, hcolumn] at hinline
  · contradiction

/-! ## Entities -/

theorem knows_sendInsertion (params : List Value) :
    Knows (fun told => ∀ key ∈ told.2, FailsOnly NamesKnown key) (m.sendInsertion params) := by
  refine preserves_get.bind fun ch _ => ?_
  simp only
  refine (Channel.knows_change _).bind fun _ _ => ?_
  split
  · refine Channel.knows_executeQuery.bind fun rows _ => preserves_pure ?_
    intro key hkey
    obtain ⟨row, -, rfl⟩ := List.mem_map.mp hkey
    cases row with
    | nil => exact failsOnly_error (by simp [NamesKnown])
    | cons entry row => exact failsOnly_ok _
  · refine Channel.knows_executeUpdate.bind fun count _ => ?_
    split
    · exact preserves_pure (by simp)
    · refine Channel.knows_generatedKeys.bind fun keys _ => preserves_pure ?_
      intro key hkey
      obtain ⟨value, -, rfl⟩ := List.mem_map.mp hkey
      exact failsOnly_ok value

theorem knows_insert (hm : m.Grounded) : Knows (fun _ => True) m.insert := by
  refine preserves_get.bind fun (c, e) _ => ?_
  simp only
  refine (knows_ofExcept m.refuses_checkInsertable.namesKnown).bind fun _ _ =>
    (knows_ofExcept (hm.namesKnown_insertValues e)).bind fun params _ =>
      Connection.knows_withStatement ((knows_first (knows_sendInsertion params)).bind
        fun (count, keys) hkeys => ?_)
  cases keys with
  | nil => exact preserves_pure trivial
  | cons key keys =>
      exact (knows_ofExcept (hm.namesKnown_withKey (hkeys key List.mem_cons_self) e)).bind
        fun keyed _ => (knows_second (preserves_set trivial)).bind fun _ _ => preserves_pure trivial

section Many

variable {κ : Type} [DecidableEq κ]

theorem knows_assignKeys (hm : m.Grounded) (refs : List κ) {keys : List (Except Failure Value)}
    (hkeys : ∀ key ∈ keys, FailsOnly NamesKnown key) :
    Knows (fun _ => True) (m.assignKeys refs keys) :=
  preserves_forM fun (ref, key) hpair => preserves_get.bind fun store _ =>
    (knows_ofExcept (hm.namesKnown_withKey (hkeys key (List.of_mem_zip hpair).2) (store ref))).bind
      fun _ _ => preserves_set trivial

theorem knows_insertChunk (hm : m.Grounded) (refs : List κ) :
    Knows (fun _ => True) (m.insertChunk refs) := by
  refine preserves_get.bind fun (c, store) _ => ?_
  refine (knows_ofExcept (failsOnly_mapM fun ref _ => hm.namesKnown_insertValues (store ref))).bind
    fun params _ => Connection.knows_withStatement
      ((knows_first (knows_sendInsertion params.flatten)).bind fun (count, keys) hkeys => ?_)
  exact (knows_second (hm.knows_assignKeys refs hkeys)).bind fun _ _ => preserves_pure trivial

theorem knows_insertAll (hm : m.Grounded) (limit : ParameterLimit) (refs : List κ) :
    Knows (fun _ => True) (m.insertAll limit refs) := by
  unfold insertAll
  split
  · exact preserves_pure trivial
  · exact preserves_get.bind fun (c, store) _ =>
      (knows_ofExcept (hm.namesKnown_checkInsertion _)).bind fun _ _ =>
        preserves_inChunks (fun chunk _ => hm.knows_insertChunk chunk) _

end Many

theorem knows_update (hm : m.Grounded) (e : Entity) : Knows (fun _ => True) (m.update e) :=
  (knows_ofExcept m.refuses_checkUpdatable.namesKnown).bind fun _ _ =>
    (knows_ofExcept (hm.namesKnown_updateValues e)).bind fun params _ =>
      preserves_get.bind fun _ _ => Connection.knows_execute _ params _

theorem knows_updateChunk (sets : List (List Value)) :
    Knows (fun _ => True) (m.updateChunk sets) := by
  refine preserves_get.bind fun c _ => Connection.knows_onStatement <|
    (preserves_forM fun params _ => Channel.knows_changeIfPossible fun s => ?_).bind
      fun _ _ => Channel.knows_executeBatch
  rw [Statement.addBatch, Statement.parameters_bindAll]
  exact failsOnly_ok _

theorem knows_updateAll (hm : m.Grounded) (limit : ParameterLimit) (entities : List Entity) :
    Knows (fun _ => True) (m.updateAll limit entities) := by
  unfold updateAll
  split
  · exact preserves_pure trivial
  · exact (knows_ofExcept (m.refuses_checkTypes entities).namesKnown).bind fun _ _ =>
      (knows_ofExcept m.refuses_checkUpdatable.namesKnown).bind fun _ _ =>
        (knows_ofExcept (failsOnly_mapM fun e _ => hm.namesKnown_updateValues e)).bind fun sets _ =>
          preserves_inChunks (fun chunk _ => knows_updateChunk chunk) _

theorem knows_delete (hm : m.Grounded) (e : Entity) : Knows (fun _ => True) (m.delete e) :=
  (knows_ofExcept (hm.namesKnown_keyValues e deleteOperation)).bind fun params _ =>
    preserves_get.bind fun _ _ => Connection.knows_execute _ params _

theorem knows_deleteAll (hm : m.Grounded) (limit : ParameterLimit) (entities : List Entity) :
    Knows (fun _ => True) (m.deleteAll limit entities) := by
  unfold deleteAll
  split
  · exact preserves_pure trivial
  · exact (knows_ofExcept (m.refuses_checkTypes entities).namesKnown).bind fun _ _ =>
      (knows_ofExcept m.refuses_checkKeyed.namesKnown).bind fun _ _ =>
        (knows_ofExcept (failsOnly_mapM fun e _ => hm.namesKnown_keyValues e deleteOperation)).bind
          fun keys _ => preserves_inChunks (fun chunk _ =>
            preserves_get.bind fun _ _ => Connection.knows_execute _ _ _) _

end Grounded

end TableMap

/-! ## Sessions -/

namespace Session

variable {α ε κ : Type} [DecidableEq κ] {Q : α → Prop}

theorem knows_onConnection {a : Action Connection α} (h : Knows Q a) :
    Knows Q (onConnection a) := h.within (fun _ _ => trivial) fun _ _ _ _ => trivial

theorem knows_besides {a : Action (Connection × ε) α} (h : Knows Q a) : Knows Q (besides a) :=
  h.within (fun _ _ => trivial) fun _ _ _ _ => trivial

/-- The lookup finds a map by which no name is missed. -/
def Lookup.IsGrounded (l : Lookup) : Prop := ∃ m, l.result = .ok m ∧ m.Grounded

variable {s : Session} {type : EntityClass}

theorem Lookup.IsGrounded.exists_map (h : Lookup.IsGrounded ⟨type, s⟩) :
    ∃ m, (tableMap type).perform s = (.ok m, Lookup.after ⟨type, s⟩) ∧ m.Grounded := by
  obtain ⟨m, hfound, hm⟩ := h
  exact ⟨m, Prod.ext hfound rfl, hm⟩

/-! ### Schema -/

theorem namesKnown_query (h : Lookup.IsGrounded ⟨type, s⟩) :
    FailsOnly NamesKnown ((query type).perform s).1 := by
  obtain ⟨m, hfound, -⟩ := h.exists_map
  exact namesKnown_bind_of_ok hfound
    (preserves_get.bind fun _ _ => preserves_pure (Q := fun _ => True) trivial)

theorem namesKnown_createText (h : Lookup.IsGrounded ⟨type, s⟩) (guarded : Bool) :
    FailsOnly NamesKnown ((createText type guarded).perform s).1 := by
  obtain ⟨m, hfound, hm⟩ := h.exists_map
  exact namesKnown_bind_of_ok hfound
    (preserves_get.bind fun _ _ => knows_ofExcept (hm.namesKnown_createTable _ guarded))

theorem namesKnown_dropText (h : Lookup.IsGrounded ⟨type, s⟩) (guarded : Bool) :
    FailsOnly NamesKnown ((dropText type guarded).perform s).1 := by
  obtain ⟨m, hfound, -⟩ := h.exists_map
  exact namesKnown_bind_of_ok hfound
    (preserves_get.bind fun _ _ => preserves_pure (Q := fun _ => True) trivial)

/-- A text that is executed at once. -/
theorem namesKnown_sent {a : Action Session String} (h : FailsOnly NamesKnown (a.perform s).1)
    (params : List Value) (operation : String) :
    FailsOnly NamesKnown
      ((a >>= fun sql => onConnection (Connection.execute sql params operation)).perform s).1 := by
  rcases hrun : a.perform s with ⟨e | sql, s'⟩
  · rw [perform_bind_error hrun]
    exact failsOnly_error (h e (by rw [hrun]))
  · exact namesKnown_bind_of_ok hrun (knows_onConnection (Connection.knows_execute sql params operation))

theorem namesKnown_createTables (types : List EntityClass)
    (h : ∀ l ∈ creationLookups types s, l.IsGrounded) :
    FailsOnly NamesKnown ((createTables types).perform s).1 := by
  rw [createTables]
  generalize (0 : Int) = total
  induction types generalizing s total with
  | nil => exact failsOnly_ok total
  | cons type types ih =>
      obtain ⟨hfirst, hrest⟩ := List.forall_mem_cons.mp h
      have hcreated : FailsOnly NamesKnown ((createTable type).perform s).1 :=
        namesKnown_sent (namesKnown_createText hfirst true) [] schemaOperation
      rw [List.foldlM_cons, bind_assoc]
      rcases hrun : (createTable type).perform s with ⟨e | n, s'⟩
      · rw [perform_bind_error hrun]
        exact failsOnly_error (hcreated e (by rw [hrun]))
      · rw [perform_bind_ok hrun, pure_bind]
        exact ih (by simpa only [hrun] using hrest) _

/-! ### Entities -/

theorem namesKnown_insert {e : Entity} (h : Lookup.IsGrounded ⟨e.type, s⟩) :
    FailsOnly NamesKnown (insert.perform (s, e)).1 := by
  obtain ⟨m, hfound, hm⟩ := h.exists_map
  have hfirst : ((tableMap e.type).first : Action (Session × Entity) TableMap).perform (s, e) =
      (.ok m, (Lookup.after ⟨e.type, s⟩, e)) := by
    rw [perform_first, hfound]
  rw [insert, perform_bind_ok (perform_get _)]
  exact namesKnown_bind_of_ok hfirst (knows_besides hm.knows_insert)

theorem namesKnown_update {e : Entity} (h : Lookup.IsGrounded ⟨e.type, s⟩) :
    FailsOnly NamesKnown ((update e).perform s).1 := by
  obtain ⟨m, hfound, hm⟩ := h.exists_map
  exact namesKnown_bind_of_ok hfound (knows_onConnection (hm.knows_update e))

theorem namesKnown_delete {e : Entity} (h : Lookup.IsGrounded ⟨e.type, s⟩) :
    FailsOnly NamesKnown ((delete e).perform s).1 := by
  obtain ⟨m, hfound, hm⟩ := h.exists_map
  exact namesKnown_bind_of_ok hfound (knows_onConnection (hm.knows_delete e))

section Many

variable {entities : List Entity} (hne : entities ≠ [])
  (h : ∀ l ∈ entities.head?.toList.map fun e => Lookup.mk e.type s, l.IsGrounded)
include hne h

/-- Several entities are mapped by the class of the first. -/
theorem exists_mapOf :
    ∃ m s', (mapOf entities).perform s = (.ok (some m), s') ∧ m.Grounded := by
  cases entities with
  | nil => contradiction
  | cons e entities =>
      obtain ⟨m, hfound, hm⟩ := (h ⟨e.type, s⟩ List.mem_cons_self).exists_map
      refine ⟨m, Lookup.after ⟨e.type, s⟩, ?_, hm⟩
      rw [mapOf, perform_map, hfound]
      rfl

theorem namesKnown_updateAll : FailsOnly NamesKnown ((updateAll entities).perform s).1 := by
  obtain ⟨m, s', hfound, hm⟩ := exists_mapOf hne h
  exact namesKnown_bind_of_ok hfound
    (preserves_get.bind fun _ _ => knows_onConnection (hm.knows_updateAll _ entities))

theorem namesKnown_deleteAll : FailsOnly NamesKnown ((deleteAll entities).perform s).1 := by
  obtain ⟨m, s', hfound, hm⟩ := exists_mapOf hne h
  exact namesKnown_bind_of_ok hfound
    (preserves_get.bind fun _ _ => knows_onConnection (hm.knows_deleteAll _ entities))

end Many

theorem namesKnown_insertAll {refs : List κ} {store : EntityStore κ} (hne : refs.map store ≠ [])
    (h : ∀ l ∈ (refs.map store).head?.toList.map fun e => Lookup.mk e.type s, l.IsGrounded) :
    FailsOnly NamesKnown ((insertAll refs).perform (s, store)).1 := by
  obtain ⟨m, s', hfound, hm⟩ := exists_mapOf hne h
  have hfirst : ((mapOf (refs.map store)).first :
      Action (Session × EntityStore κ) (Option TableMap)).perform (s, store) =
        (.ok (some m), (s', store)) := by
    rw [perform_first, hfound]
  rw [insertAll, perform_bind_ok (perform_get _)]
  exact namesKnown_bind_of_ok hfirst (knows_besides (hm.knows_insertAll _ refs))

end Session

open Session (Lookup)

namespace Operation

variable {κ : Type} [DecidableEq κ]

omit [DecidableEq κ] in
theorem namesKnown_onEntity {ref : κ} {a : Entity → Action Session Int} {s : Session}
    {store : EntityStore κ} (h : FailsOnly NamesKnown ((a (store ref)).perform s).1) :
    FailsOnly NamesKnown ((onEntity ref a).perform (s, store)).1 := by
  rw [onEntity, perform_bind_ok (perform_get _)]
  exact namesKnown_forget (a := (a (store ref)).first) (s := (s, store)) h

omit [DecidableEq κ] in
theorem namesKnown_onEntities {refs : List κ} {a : List Entity → Action Session Int} {s : Session}
    {store : EntityStore κ} (h : FailsOnly NamesKnown ((a (refs.map store)).perform s).1) :
    FailsOnly NamesKnown ((onEntities refs a).perform (s, store)).1 := by
  rw [onEntities, perform_bind_ok (perform_get _)]
  exact namesKnown_forget (a := (a (refs.map store)).first) (s := (s, store)) h

theorem namesKnown (op : Operation κ) (p : Session × EntityStore κ) (hlooks : op.lookups p ≠ [])
    (h : ∀ l ∈ op.lookups p, l.IsGrounded) : FailsOnly NamesKnown (op.action.perform p).1 := by
  obtain ⟨s, store⟩ := p
  have hsome {refs : List κ} (hlooks : ((refs.map store).head?.toList.map fun e =>
      Lookup.mk e.type s) ≠ []) : refs.map store ≠ [] := by
    intro hnone
    simp [hnone] at hlooks
  cases op with
  | insert ref =>
      exact namesKnown_forget (s := (s, store ref))
        (Session.namesKnown_insert (h _ List.mem_cons_self))
  | update ref => exact namesKnown_onEntity (Session.namesKnown_update (h _ List.mem_cons_self))
  | delete ref => exact namesKnown_onEntity (Session.namesKnown_delete (h _ List.mem_cons_self))
  | insertAll refs =>
      exact namesKnown_forget (a := Session.insertAll refs) (s := (s, store))
        (Session.namesKnown_insertAll (hsome hlooks) h)
  | updateAll refs => exact namesKnown_onEntities (Session.namesKnown_updateAll (hsome hlooks) h)
  | deleteAll refs => exact namesKnown_onEntities (Session.namesKnown_deleteAll (hsome hlooks) h)
  | createTables types =>
      exact namesKnown_forget (a := (Session.createTables types).first) (s := (s, store))
        (Session.namesKnown_createTables types h)
  | dropTable type =>
      exact namesKnown_forget (a := (Session.dropTable type).first) (s := (s, store))
        (Session.namesKnown_sent (Session.namesKnown_dropText (h _ List.mem_cons_self) true) [] _)
  | execute | query | prepared | terminal => contradiction

end Operation

namespace Session.Turn

variable {κ : Type} [DecidableEq κ]

/-- What finds grounded maps only does not fail for a name that is not known. -/
theorem namesKnown (turn : Turn κ) (p : Session × EntityStore κ) (hlooks : turn.lookups p ≠ [])
    (h : ∀ l ∈ turn.lookups p, l.IsGrounded) : FailsOnly NamesKnown (turn.action.perform p).1 := by
  obtain ⟨s, store⟩ := p
  cases turn with
  | lookup type =>
      obtain ⟨m, hfound, -⟩ := (h _ List.mem_cons_self).exists_map
      refine namesKnown_forget (a := (tableMap type).first) (s := (s, store)) ?_
      rw [perform_first, hfound]
      exact failsOnly_ok m
  | query type =>
      exact namesKnown_forget (a := (Session.query type).first) (s := (s, store))
        (namesKnown_query (h _ List.mem_cons_self))
  | createText type guarded =>
      exact namesKnown_forget (a := (Session.createText type guarded).first) (s := (s, store))
        (namesKnown_createText (h _ List.mem_cons_self) guarded)
  | dropText type guarded =>
      exact namesKnown_forget (a := (Session.dropText type guarded).first) (s := (s, store))
        (namesKnown_dropText (h _ List.mem_cons_self) guarded)
  | operation op => exact op.namesKnown (s, store) hlooks h
  | register | restate => contradiction

end Session.Turn

/-! ## Accepted mappings -/

namespace TableMap

variable {m : TableMap}

/-- No name is missed by what finds the map, nor by the values of the keys. -/
structure Reliable (m : TableMap) : Prop where
  keyValues : ∀ e operation, m.keyValues e operation ≠ .error .unknownName
  turns : ∀ (κ : Type) [DecidableEq κ] (turn : Session.Turn κ) (p : Session × EntityStore κ),
    turn.lookups p ≠ [] → (∀ l ∈ turn.lookups p, l.result = .ok m) →
      (turn.action.perform p).1 ≠ .error .unknownName

theorem Grounded.reliable (hm : m.Grounded) : m.Reliable where
  keyValues e operation h := hm.namesKnown_keyValues e operation _ h rfl
  turns _ _ turn p hlooks h herror :=
    turn.namesKnown p hlooks (fun l hl => ⟨m, h l hl, hm⟩) _ herror rfl

/-- An instance of the class with the same number under every key. -/
def numbered (m : TableMap) : Entity :=
  { type := m.type, attributes := m.keys.values.map fun part => (part.property, .int 1) }

theorem get_numbered {part : KeyPart} (h : part ∈ m.keys.values) :
    m.numbered.get part.property = .int 1 := by
  have hname : part.property ∈ Entries.names m.numbered.attributes := by
    rw [numbered, Entries.names, List.map_map]
    exact List.mem_map_of_mem h
  obtain ⟨v, hv⟩ := (Entries.has_iff_exists _ _).mp ((Entries.has_iff_mem_names _ _).mpr hname)
  obtain ⟨part', -, hpart'⟩ := List.mem_map.mp (Entries.mem_of_get? hv)
  rw [Entity.get, Entity.attribute?, hv, ← (Prod.mk.inj hpart').2]
  rfl

/-- The values of the keys are looked at one after the other, up to a key that is no field. -/
theorem keyValues_numbered (h : ∃ part ∈ m.keys.values, m.fields.get? part.property = none)
    (operation : String) : m.keyValues m.numbered operation = .error .unknownName := by
  have hkeys : m.keys ≠ [] := by
    rintro hnone
    simp [hnone, Entries.values] at h
  have hvalue : ∀ part ∈ m.keys.values, m.value m.numbered part.property =
      if m.fields.get? part.property = none then .error .unknownName else .ok (.int 1) := by
    intro part hpart
    rw [value, requireField, get_numbered hpart]
    cases m.fields.get? part.property <;> rfl
  rw [keyValues, if_neg hkeys]
  -- Parts in front of the one that is no field have the value 1 and are passed over.
  generalize m.keys.values = parts at h hvalue
  induction parts with
  | nil => simp at h
  | cons part parts ih =>
      obtain ⟨hfirst, hrest⟩ := List.forall_mem_cons.mp hvalue
      rw [List.mapM_cons, hfirst]
      by_cases hnone : m.fields.get? part.property = none
      · rw [if_pos hnone]
        rfl
      · have hlater : ∃ part ∈ parts, m.fields.get? part.property = none := by
          simpa [hnone] using h
        rw [if_neg hnone, ih hlater hrest]
        rfl

end TableMap

/-- An instance whose keys have no values is not deleted. -/
theorem Session.delete_of_keyValues {m : TableMap} {e : Entity} {s : Session} {failure : Failure}
    (hfound : ((tableMap e.type).perform s).1 = .ok m)
    (hkeys : m.keyValues e TableMap.deleteOperation = .error failure) :
    ((delete e).perform s).1 = .error failure := by
  have hrun : (tableMap e.type).perform s = (.ok m, ((tableMap e.type).perform s).2) :=
    Prod.ext hfound rfl
  have hrefused (c : Connection) : (m.delete e).perform c = (.error failure, c) := by
    refine perform_bind_error ?_
    rw [perform_ofExcept, hkeys]
  rw [delete, perform_bind_ok hrun, onConnection, perform_within, hrefused]

namespace StatedMapping

variable {type : EntityClass} {table : String} {keys : Entries KeyPart} {columns : Entries String}
  {details : Entries ColumnDetail} {mapping : StatedMapping}

theorem of_eq_ok (h : StatedMapping.of type table keys columns details = .ok mapping) :
    ∃ fields, fieldsOf type columns = .ok fields ∧ TableMap.unmapped keys columns details = [] ∧
      (TableMap.autoProperties keys).length ≤ 1 ∧
      mapping = { type, table, keys, columns, details, fields } := by
  obtain ⟨fields, hfields, h⟩ := bind_eq_ok.mp h
  split at h
  · contradiction
  · rename_i hmapped
    simp only at h
    split at h
    · contradiction
    · rename_i hautos
      exact ⟨fields, hfields, hmapped, Nat.not_lt.mp hautos, (Except.ok.inj h).symm⟩

/-- What is registered is resolved as it stands, whatever else is. -/
theorem resolve_register (catalog : Catalog) {fields : Entries Hint}
    (hmapped : TableMap.unmapped keys columns details = [])
    (hautos : (TableMap.autoProperties keys).length ≤ 1) :
    Resolution.resolve (catalog.register { type, table, keys, columns, details, fields }) type =
      .ok { type, table, keys, columns, fields, details } := by
  have hfound : (Catalog.register catalog { type, table, keys, columns, details, fields }).find? type =
      some { type, table, keys, columns, details, fields } := Entries.get?_put_self _ _ _
  rw [Resolution.resolve, hfound]
  exact TableMap.checked_eq_ok.mpr ⟨hmapped, hautos, rfl⟩

/-- A mapping that is accepted is resolved as it stands. Its keys and details stand under properties that
have columns, and these are the fields of the map; but no name is missed only if the keys, too, are such
properties. Otherwise there is an instance that no session can delete. -/
theorem reliable_iff (h : StatedMapping.of type table keys columns details = .ok mapping) :
    ∃ fields, let m : TableMap := { type, table, keys, columns, fields, details }
      (∀ catalog : Catalog, Resolution.resolve (catalog.register mapping) type = .ok m) ∧
      (∀ p ∈ keys.names ++ details.names, columns.has p = true) ∧
      (∀ p, columns.has p = true ↔ ∃ hint, fields.get? p = some hint) ∧
      (m.Reliable ↔ ∀ part ∈ keys.values, columns.has part.property = true) ∧
      ((∃ part ∈ keys.values, columns.has part.property = false) → ∃ e : Entity, e.type = type ∧
        ∀ s : Session, ((Session.tableMap type).perform s).1 = .ok m →
          ((Session.delete e).perform s).1 = .error .unknownName) := by
  obtain ⟨fields, hfields, hmapped, hautos, rfl⟩ := of_eq_ok h
  have hfield (p : String) : columns.has p = true ↔ ∃ hint, fields.get? p = some hint := by
    rw [← Entries.has_iff_exists, Entries.has_iff_mem_names, Entries.has_iff_mem_names,
      names_fieldsOf hfields]
  refine ⟨fields, ?_⟩
  intro m
  have hmissing (hbad : ∃ part ∈ keys.values, columns.has part.property = false) (operation : String) :
      m.keyValues m.numbered operation = .error .unknownName := by
    obtain ⟨part, hpart, hcolumn⟩ := hbad
    refine TableMap.keyValues_numbered ⟨part, hpart, ?_⟩ operation
    refine Option.eq_none_iff_forall_ne_some.mpr fun hint hhint => ?_
    simp [(hfield part.property).mpr ⟨hint, hhint⟩] at hcolumn
  refine ⟨fun catalog => resolve_register catalog hmapped hautos, fun p hp => ?mapped, hfield,
    ⟨fun hm => ?reliable, fun hparts => TableMap.Grounded.reliable ⟨fun p => (hfield p).mp, hparts⟩⟩,
    fun hbad => ⟨m.numbered, rfl, fun s hs => Session.delete_of_keyValues hs (hmissing hbad _)⟩⟩
  case mapped => simpa using List.filter_eq_nil_iff.mp hmapped p hp
  case reliable =>
    intro part hpart
    by_contra hcolumn
    exact hm.keyValues _ TableMap.deleteOperation
      (hmissing ⟨part, hpart, Bool.eq_false_iff.mpr hcolumn⟩ _)

/-- A key of memos stands under their number, as it should. -/
theorem reliable_iff_memos :
    ∃ mapping, StatedMapping.of memoClass "memo" [("number", ⟨"number", "id", true⟩)]
        [("number", "id"), ("text", "body")] [] = .ok mapping ∧
      ∃ fields, (∀ catalog : Catalog, Resolution.resolve (catalog.register mapping) memoClass =
          .ok { type := memoClass, table := "memo", keys := [("number", ⟨"number", "id", true⟩)]
                columns := [("number", "id"), ("text", "body")], fields }) ∧
        TableMap.Reliable
          { type := memoClass, table := "memo", keys := [("number", ⟨"number", "id", true⟩)]
            columns := [("number", "id"), ("text", "body")], fields } := by
  have h : ∃ mapping, StatedMapping.of memoClass "memo" [("number", ⟨"number", "id", true⟩)]
      [("number", "id"), ("text", "body")] [] = .ok mapping := ⟨_, rfl⟩
  obtain ⟨mapping, hmapping⟩ := h
  obtain ⟨fields, hresolved, -, -, hreliable, -⟩ := reliable_iff hmapping
  exact ⟨mapping, hmapping, fields, hresolved, hreliable.mpr (by decide)⟩

/-- The key stands under the number, but its property is no field. -/
theorem accepted_without_field :
    ∃ mapping, StatedMapping.of memoClass "memo" [("number", ⟨"count", "id", false⟩)]
        [("number", "id"), ("text", "body")] [] = .ok mapping ∧
      ((Session.delete { type := memoClass, attributes := [("number", .int 7)] }).perform
        { connection := { dialect := .sqlite }, catalog := Catalog.register [] mapping }).1 =
          .error .unknownName := ⟨_, rfl, rfl⟩

end StatedMapping

end RelationalMapper
