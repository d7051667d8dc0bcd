import RelationalMapper.Proofs.Bulk.Growth
import RelationalMapper.Proofs.Bulk.Partition

/-! # Generated keys follow the order of the entities

A database numbers the rows of each insertion consecutively and tells the numbers in the way of its
dialect. Whichever way that is, and however the entities are spread over statements, each of them gets
its own number. -/

namespace RelationalMapper

open RelationalMapper.Action

/-! ## A database that numbers rows -/

/-- The answer to an insertion of `rows` rows, the first of which gets the number `next`. -/
structure Exposes (d : Dialect) (next : Int) (rows : Nat) (answer : Response) : Prop where
  fault : answer.fault = none
  fetchFault : answer.fetchFault = none
  rowCount : answer.rowCount = some (rows : Int)
  first : d = .mySql → answer.lastRowId = .int next
  last : d = .sqlite → answer.lastRowId = .int (next + rows - 1)
  returned : d = .postgres → ∃ label, answer.columns = some [label] ∧
    answer.rows = (List.range rows).map fun (i : Nat) => [.int (next + i)]

/-- The answer to the question for the last key, where `next` is free. -/
structure TellsLast (next : Int) (answer : Response) : Prop where
  fault : answer.fault = none
  fetchFault : answer.fetchFault = none
  row : answer.firstRow = some [.int (next - 1)]

/-- The answers to these calls are those of a database in which `next` is the first free number: each
insertion takes as many numbers as it has groups of values. -/
def Numbering (d : Dialect) (next : Int) : List Call → List Response → Prop
  | [], _ => True
  | .execute text _ :: calls, answers =>
    match d.received text with
    | none => Numbering d next calls answers.tail
    | some sql =>
      if Sql.beginsWith "INSERT" sql then
        Exposes d next (Sql.valueGroups sql).length (answers.headD {}) ∧
          Numbering d (next + (Sql.valueGroups sql).length) calls answers.tail
      else
        (sql = Keys.lastKeyQuery → TellsLast next (answers.headD {})) ∧
          Numbering d next calls answers.tail
  | .executeMany .. :: calls, answers => Numbering d next calls answers.tail
  | _ :: calls, answers => Numbering d next calls answers

section Numbering

variable {d : Dialect} {next : Int} {calls : List Call} {answers : List Response}

/-- Other calls take no answers. -/
theorem numbering_append {silent : List Call} (h : ∀ call ∈ silent, call.isStatement = false) :
    Numbering d next (silent ++ calls) answers ↔ Numbering d next calls answers := by
  induction silent with
  | nil => rfl
  | cons call silent ih =>
      have hrest := ih fun other ho => h other (List.mem_cons_of_mem call ho)
      have hcall := h call List.mem_cons_self
      cases call with
      | execute text params => simp [Call.isStatement] at hcall
      | executeMany text batch => simp [Call.isStatement] at hcall
      | _ => exact hrest

theorem numbering_insertion {sql : String} (h : Sql.beginsWith "INSERT" sql = true)
    (params : Option (List Value)) :
    Numbering d next (.execute (d.standardize sql) params :: calls) answers ↔
      Exposes d next (Sql.valueGroups sql).length (answers.headD {}) ∧
        Numbering d (next + (Sql.valueGroups sql).length) calls answers.tail := by
  simp [Numbering, Dialect.received_standardize, h]

theorem numbering_lastKeyQuery :
    Numbering .sqlServer next (.execute Keys.lastKeyQuery none :: calls) answers ↔
      TellsLast next (answers.headD {}) ∧ Numbering .sqlServer next calls answers.tail := by
  have hreads : Sql.beginsWith "INSERT" Keys.lastKeyQuery = false := by decide +kernel
  simp [Numbering, Dialect.received, Dialect.placeholder, hreads]

end Numbering

/-! ## What such a database tells -/

namespace Keys

theorem consecutive_succ (next : Int) (n : Nat) :
    consecutive next (n + 1 : Nat) = .int next :: consecutive (next + 1) n := by
  have hnumber : ∀ i : Nat, next + ((i : Int) + 1) = next + 1 + i := fun i => by omega
  simp [consecutive, List.range_succ_eq_map, Function.comp_def, hnumber]

theorem endingAt_eq (next : Int) (rows : Nat) :
    endingAt (next + rows - 1) rows = consecutive next rows := by
  rw [endingAt]
  congr 1
  omega

theorem fromFirst_eq (next : Int) {rows : Nat} (h : 0 < rows) :
    fromFirst (.int next) rows = .ok (consecutive next rows) := by
  have hne : ¬(Value.int next = .null ∨ (rows : Int) ≤ 0) := by
    simp [Value.int, Value.null]
    omega
  rw [fromFirst, if_neg hne]
  rfl

theorem upToLast_eq (next : Int) {rows : Nat} (h : 0 < rows) :
    upToLast (.int (next + rows - 1)) rows = .ok (consecutive next rows) := by
  have hne : ¬(Value.int (next + rows - 1) = .null ∨ (rows : Int) ≤ 0) := by
    simp [Value.int, Value.null]
    omega
  rw [upToLast, if_neg hne, ← endingAt_eq]
  rfl

theorem keyIn_int (n : Int) : keyIn [.int n] = .ok (some n) := by
  have hne : Value.int n ≠ .null := by simp [Value.int, Value.null]
  simp only [keyIn, if_neg hne]
  rfl

end Keys

namespace TableMap

variable {m : TableMap}

/-- By whichever way, the keys of an insertion are its rows' own numbers. -/
theorem told_of_exposes {d : Dialect} {next : Int} {rows : Nat} {answer following : Response}
    (hkey : m.singleAutoKey?.isSome = true) (hrows : 0 < rows) (h : Exposes d next rows answer)
    (hlast : d = .sqlServer → following.firstRow = some [.int (next + rows - 1)]) :
    m.told d answer following = .ok (rows, (Keys.consecutive next rows).map .ok) := by
  have hnotnone : ¬m.singleAutoKey?.isNone = true := by
    simpa [Option.isSome_iff_ne_none] using hkey
  have hmax : max (rows : Int) 0 = rows := by omega
  have hcounted : d ≠ .postgres →
      Keys.told d answer following rows = .ok (Keys.consecutive next rows) →
      m.told d answer following = .ok (rows, (Keys.consecutive next rows).map .ok) := by
    intro hd htold
    have hreturned : ¬(m.returnedKey? d).isSome = true := by
      cases d <;> simp [returnedKey?, Dialect.returnsKeys] at hd ⊢
    rw [told, if_neg hreturned, h.rowCount]
    simp only [if_neg hnotnone, hmax, htold]
    rfl
  cases d with
  | mySql =>
      refine hcounted (by simp) ?_
      rw [Keys.told, h.first rfl, Keys.fromFirst_eq next hrows]
  | sqlite =>
      refine hcounted (by simp) ?_
      rw [Keys.told, h.last rfl, Keys.upToLast_eq next hrows]
  | sqlServer =>
      refine hcounted (by simp) ?_
      have hpositive : ¬(rows : Int) ≤ 0 := by omega
      rw [Keys.told, if_neg hpositive, hlast rfl, Option.elim_some, Keys.keyIn_int,
        ← Keys.endingAt_eq]
      rfl
  | postgres =>
      obtain ⟨label, hlabel, hids⟩ := h.returned rfl
      have hreturned : (m.returnedKey? .postgres).isSome = true := by
        simpa [returnedKey?, Dialect.returnsKeys] using hkey
      have hrow : ∀ v : Value, Entries.ofFirst [(label, v)] = [(label, v)] := fun _ => rfl
      simp [told, hreturned, Channel.rowsIn, hlabel, Channel.rowsOf, hids, Function.comp_def,
        Keys.consecutive, Row.head?, hrow]

end TableMap

/-! ## Entities with numbers -/

section Numbered

variable {κ : Type} [DecidableEq κ]

/-- The entities in their order get consecutive numbers as a property. -/
def EntityStore.numbered (store : EntityStore κ) (p : String) (next : Int) :
    List κ → EntityStore κ
  | [] => store
  | ref :: refs => numbered (store.put ref ((store ref).set p (.int next))) p (next + 1) refs

theorem EntityStore.numbered_append (store : EntityStore κ) (p : String) (next : Int)
    (first second : List κ) :
    store.numbered p next (first ++ second) =
      (store.numbered p next first).numbered p (next + first.length) second := by
  induction first generalizing store next with
  | nil => simp [numbered]
  | cons ref first ih =>
      have hnext : next + 1 + first.length = next + (ref :: first).length := by
        rw [List.length_cons]
        omega
      rw [List.cons_append, numbered, ih, numbered, hnext]

theorem EntityStore.numbered_of_not_mem (store : EntityStore κ) (p : String) (next : Int)
    {refs : List κ} {ref : κ} (h : ref ∉ refs) : store.numbered p next refs ref = store ref := by
  induction refs generalizing store next with
  | nil => rfl
  | cons other refs ih =>
      have hne : ref ≠ other := fun he => h (he ▸ List.mem_cons_self)
      have hrest : ref ∉ refs := fun hr => h (List.mem_cons_of_mem other hr)
      rw [numbered, ih _ _ hrest, put_of_ne _ _ hne]

/-- An entity that is given once gets the number of its place. -/
theorem EntityStore.numbered_getElem (store : EntityStore κ) (p : String) (next : Int)
    {refs : List κ} (hrefs : refs.Nodup) {i : Nat} (h : i < refs.length) :
    store.numbered p next refs refs[i] = (store refs[i]).set p (.int (next + i)) := by
  induction refs generalizing store next i with
  | nil => simp at h
  | cons ref refs ih =>
      obtain ⟨hnew, hrefs⟩ := List.nodup_cons.mp hrefs
      cases i with
      | zero => simp [numbered, numbered_of_not_mem _ _ _ hnew]
      | succ i =>
          have hi : i < refs.length := by simpa using h
          have hne : refs[i] ≠ ref := fun he => hnew (he ▸ List.getElem_mem hi)
          have hnumber : next + 1 + (i : Int) = next + (i + 1 : Nat) := by omega
          rw [List.getElem_cons_succ, numbered, ih _ _ hrefs hi, put_of_ne _ _ hne, hnumber]

end Numbered

namespace TableMap

variable {m : TableMap} {part : KeyPart}

/-- The only key is automatic and an integer. -/
structure KeyedBy (m : TableMap) (part : KeyPart) : Prop where
  only : m.keys.values = [part]
  auto : part.auto = true
  integer : ∃ hint, m.fields.get? part.property = some hint ∧ hint.nativeType? = some .int

theorem KeyedBy.singleAutoKey? (h : m.KeyedBy part) : m.singleAutoKey? = some part := by
  have hlength : m.keys.length = 1 := by
    simpa [Entries.values] using congrArg List.length h.only
  simp [TableMap.singleAutoKey?, autoKey?, hlength, h.only, h.auto]

theorem KeyedBy.withKey_int (h : m.KeyedBy part) (e : Entity) (n : Int) :
    m.withKey e (.ok (.int n)) = .ok (e.set part.property (.int n)) := by
  obtain ⟨hint, hfield, hint_eq⟩ := h.integer
  have htype : (Value.int n).type = .int := rfl
  have hconvert : hint.convert (.int n) = .ok (.int n) := by
    simp [Hint.convert, hint_eq, Value.converted, htype]
  simp [withKey, h.singleAutoKey?, assignKey, requireField, hfield, hconvert, bind, Except.bind,
    pure, Except.pure]

section Assign

variable {κ : Type} [DecidableEq κ]

theorem KeyedBy.perform_assignKeys (h : m.KeyedBy part) (refs : List κ) (next : Int)
    (store : EntityStore κ) :
    (m.assignKeys refs ((Keys.consecutive next refs.length).map .ok)).perform store =
      (.ok (), store.numbered part.property next refs) := by
  induction refs generalizing next store with
  | nil => rfl
  | cons ref refs ih =>
      rw [List.length_cons, Keys.consecutive_succ]
      have hrest := ih (next + 1) (store.put ref ((store ref).set part.property (.int next)))
      simpa [assignKeys, perform_bind, h.withKey_int, EntityStore.numbered] using hrest

end Assign

/-! ## One insertion and its database -/

theorem isStatement_commitCalls (c : Connection) :
    ∀ call ∈ c.commitCalls, call.isStatement = false := by
  unfold Connection.commitCalls
  split <;> simp [Call.isStatement]

theorem isStatement_fetchCalls (answer : Response) :
    ∀ call ∈ Channel.fetchCalls answer, call.isStatement = false := by
  unfold Channel.fetchCalls
  split <;> simp [Call.isStatement]

section Numbering

variable {d : Dialect} {c : Connection} {next : Int} {rest : List Call} {answers : List Response}

/-- An insertion of several rows takes that many numbers. -/
theorem numbering_openInsertion {rows : Nat} (params : Option (List Value)) :
    Numbering d next
        (.openCursor :: .execute (d.standardize (m.insertText d rows)) params :: rest) answers ↔
      Exposes d next rows (answers.headD {}) ∧ Numbering d (next + rows) rest answers.tail := by
  have hinsert : Sql.beginsWith "INSERT" (m.insertText d rows) = true :=
    d.beginsWith_renderInsertion _
  have hrows : (Sql.valueGroups (m.insertText d rows)).length = rows := by
    rw [valueGroups_insertText, List.length_replicate]
  refine (numbering_insertion hinsert params).trans ?_
  rw [hrows]

/-- Behind the calls of an insertion, its answers and its numbers are used up. -/
theorem numbering_insertionCalls {entities : List Entity}
    (h : Numbering c.dialect next
      (m.insertionCalls c (m.insertCall c.dialect entities) ++ .closeCursor :: rest)
      c.driver.responses) :
    Numbering c.dialect (next + entities.length) rest
      (c.driver.responses.drop (m.answersTaken c.dialect c.driver.responses)) := by
  unfold insertionCalls Driver.nextResponse at h
  simp only [List.cons_append] at h
  replace h := ((numbering_openInsertion _).mp h).2
  unfold answersTaken
  split at h
  · rename_i hreturned
    rw [List.append_assoc, numbering_append (isStatement_fetchCalls _),
      numbering_append (isStatement_commitCalls _)] at h
    rw [if_neg (by simp [not_asks_of_returned hreturned]), List.drop_one]
    exact h
  · rw [List.append_assoc, numbering_append (isStatement_commitCalls _)] at h
    split at h
    · rename_i hasks
      have hd : c.dialect = .sqlServer := dialect_of_asks hasks
      have htail : c.driver.responses.drop 2 = c.driver.responses.tail.tail := by
        rw [← List.drop_one, ← List.drop_one, List.drop_drop]
      rw [if_pos hasks, htail, hd]
      rw [hd] at h
      exact (numbering_lastKeyQuery.mp h).2
    · rename_i hasks
      rw [if_neg hasks, List.drop_one]
      exact h

end Numbering

/-- Answers with the rows' own numbers serve an insertion. -/
theorem KeyedBy.answered_of_exposes (hkey : m.KeyedBy part) {d : Dialect} {next : Int} {rows : Nat}
    {answers : List Response} (hrows : 0 < rows) (hexposes : Exposes d next rows (answers.headD {}))
    (hlast : d = .sqlServer → TellsLast (next + rows) (answers.tail.headD {})) :
    m.Answered d answers rows ((Keys.consecutive next rows).map .ok) := by
  have hsome : m.singleAutoKey?.isSome = true := by simp [hkey.singleAutoKey?]
  exact ⟨hexposes.fault, fun _ => hexposes.fetchFault,
    told_of_exposes hsome hrows hexposes fun hd => (hlast hd).row,
    fun hasks => ⟨(hlast (dialect_of_asks hasks)).fault, (hlast (dialect_of_asks hasks)).fetchFault⟩⟩

section Chunk

variable {κ : Type} [DecidableEq κ] {refs : List κ} {c : Connection} {store : EntityStore κ}
  {next : Int} {calls : List Call}

/-- A database that numbers rows tells the next numbers about a chunk. -/
theorem KeyedBy.answered (hm : m.Coherent) (hkey : m.KeyedBy part) (hrefs : refs ≠ [])
    (hfaults : c.driver.faults = [])
    (htrace : Connection.traceOf ((m.insertChunk refs).perform (c, store)).2 <+:
      c.driver.trace ++ calls)
    (hnumbering : Numbering c.dialect next calls c.driver.responses) :
    m.Answered c.dialect c.driver.responses refs.length
      ((Keys.consecutive next refs.length).map .ok) := by
  have hrows : 0 < refs.length := List.length_pos_iff.mpr hrefs
  have hsome : m.singleAutoKey?.isSome = true := by simp [hkey.singleAutoKey?]
  let params := refs.flatMap fun ref => m.insertRow (store ref)
  let fresh : Statement :=
    { sql := m.insertText c.dialect refs.length, operation := insertOperation }
  have hsent := (prefix_insertChunk hm refs store).trans htrace
  have hexposes : Exposes c.dialect next refs.length (c.driver.responses.headD {}) := by
    have hfirst := (prefix_sendInsertion (m := m) (s := fresh) params hfaults rfl).trans hsent
    obtain ⟨rest, rfl⟩ := (List.prefix_append_right_inj _).mp hfirst
    exact ((numbering_openInsertion _).mp hnumbering).1
  have hlast : c.dialect = .sqlServer →
      TellsLast (next + refs.length) (c.driver.responses.tail.headD {}) := by
    intro hd
    have hasked := (prefix_sendInsertion_asking (m := m) (s := fresh) params (.of_faults hfaults)
      rfl hd hsome
      hexposes.fault hexposes.rowCount (by omega)).trans hsent
    obtain ⟨rest, rfl⟩ := (List.prefix_append_right_inj _).mp hasked
    simp only [List.cons_append, List.append_assoc] at hnumbering
    have hbehind := ((numbering_openInsertion _).mp hnumbering).2
    rw [numbering_append (isStatement_commitCalls _), hd] at hbehind
    exact (numbering_lastKeyQuery.mp hbehind).1
  exact hkey.answered_of_exposes hrows hexposes hlast

/-- A chunk gives its entities the next numbers, and leaves the others to what follows. -/
theorem KeyedBy.perform_insertChunk (hm : m.Coherent) (hkey : m.KeyedBy part) (hrefs : refs ≠ [])
    (hfaults : c.driver.faults = [])
    (htrace : Connection.traceOf ((m.insertChunk refs).perform (c, store)).2 <+:
      c.driver.trace ++ calls)
    (hnumbering : Numbering c.dialect next calls c.driver.responses) :
    ∃ c' rest, (m.insertChunk refs).perform (c, store) =
        (.ok refs.length, (c', store.numbered part.property next refs)) ∧
      c'.driver.faults = [] ∧ c'.dialect = c.dialect ∧
      c'.driver.trace ++ rest = c.driver.trace ++ calls ∧
      Numbering c.dialect (next + refs.length) rest c'.driver.responses := by
  have hchunk := TableMap.perform_insertChunk hm (.of_faults hfaults)
    (hkey.answered hm hrefs hfaults htrace hnumbering) (hkey.perform_assignKeys refs next store)
  rw [hchunk] at htrace
  obtain ⟨rest, hrest⟩ := htrace
  refine ⟨_, rest, hchunk, hfaults, rfl, hrest, ?_⟩
  have hcalls : m.insertionCalls c (m.insertCall c.dialect (refs.map store)) ++
      .closeCursor :: rest = calls := by
    simpa [Connection.traceOf, Connection.trace] using hrest
  rw [← hcalls] at hnumbering
  simpa using numbering_insertionCalls hnumbering

end Chunk

/-! ## The run -/

/-- Chunk by chunk, the entities get consecutive numbers. -/
theorem KeyedBy.perform_insertChunks {κ : Type} [DecidableEq κ] (hm : m.Coherent)
    (hkey : m.KeyedBy part) (cs : List (List κ)) (hcs : ∀ chunk ∈ cs, chunk ≠ []) {c c' : Connection}
    {store store' : EntityStore κ} {next total : Int} {calls : List Call}
    {result : Except Failure Int} (hfaults : c.driver.faults = [])
    (hrun : (cs.foldlM (fun total chunk => do return total + (← m.insertChunk chunk)) total :
      Action (Connection × EntityStore κ) Int).perform (c, store) = (result, (c', store')))
    (htrace : c'.driver.trace = c.driver.trace ++ calls)
    (hnumbering : Numbering c.dialect next calls c.driver.responses) :
    result = .ok (total + cs.flatten.length) ∧
      store' = store.numbered part.property next cs.flatten := by
  induction cs generalizing c store next total calls with
  | nil =>
      obtain ⟨rfl, hstate⟩ := Prod.mk.inj hrun
      obtain ⟨-, rfl⟩ := Prod.mk.inj hstate
      simp [EntityStore.numbered]
  | cons chunk cs ih =>
      simp only [List.foldlM_cons, bind_assoc, pure_bind] at hrun
      have hchunk : Connection.traceOf ((m.insertChunk chunk).perform (c, store)).2 <+:
          c.driver.trace ++ calls := by
        have hrest := prefix_bind (m.insertChunk chunk)
          (fun count => m.grows_insertChunks cs (total + count)) (c, store)
        rw [hrun] at hrest
        rwa [← htrace]
      obtain ⟨sent, rest, hperform, hfaults', hdialect, hcalls, hrest⟩ :=
        hkey.perform_insertChunk hm (hcs chunk List.mem_cons_self) hfaults hchunk hnumbering
      rw [perform_bind_ok hperform] at hrun
      rw [← hdialect] at hrest
      obtain ⟨rfl, rfl⟩ := ih (fun other ho => hcs other (List.mem_cons_of_mem chunk ho)) hfaults'
        hrun (htrace.trans hcalls.symm) hrest
      constructor
      · simp [Int.add_assoc]
      · rw [List.flatten_cons, EntityStore.numbered_append]

/-- A class whose only key is automatic asks for no key of an entity. -/
theorem KeyedBy.checkInsertion_eq (hkey : m.KeyedBy part) (hproperties : m.insertProperties ≠ [])
    {entities : List Entity} (htypes : ∀ e ∈ entities, e.type = m.type) :
    m.checkInsertion entities = .ok () := by
  have hmanual : m.manualKeys = [] := by simp [manualKeys, hkey.only, hkey.auto]
  have hkeys : entities.forM m.checkManualKeys = .ok () := by
    clear htypes
    induction entities with
    | nil => rfl
    | cons e entities ih =>
        have hfirst : m.checkManualKeys e = .ok () := by
          rw [checkManualKeys, hmanual]
          rfl
        rw [List.forM, hfirst]
        exact ih
  simp [checkInsertion, checkTypes_eq htypes, checkInsertable, hproperties, hkeys, bind,
    Except.bind]

/-- Entities get consecutive numbers in their order, and nothing else about any entity changes. What
is left does not depend on the dialect or on the limit. -/
theorem insertAll_numbers {κ : Type} [DecidableEq κ] (hm : m.Resolved) (hkey : m.KeyedBy part)
    (hproperties : m.insertProperties ≠ []) {refs : List κ} (hrefs : refs.Nodup)
    (limit : ParameterLimit) {c c' : Connection} {store store' : EntityStore κ}
    (htypes : ∀ ref ∈ refs, (store ref).type = m.type) {first : Int} {calls : List Call}
    {result : Except Failure Int} (hfaults : c.driver.faults = [])
    (hrun : (m.insertAll limit refs).perform (c, store) = (result, (c', store')))
    (htrace : c'.driver.trace = c.driver.trace ++ calls)
    (hnumbering : Numbering c.dialect first calls c.driver.responses) :
    result = .ok refs.length ∧ store' = store.numbered part.property first refs ∧
      (∀ i (h : i < refs.length), (store' refs[i]).get part.property = .int (first + i)) ∧
      ∀ ref p, (ref ∈ refs → p ≠ part.property) →
        (store' ref).attribute? p = (store ref).attribute? p := by
  have hends : result = .ok refs.length ∧ store' = store.numbered part.property first refs := by
    by_cases hempty : refs = []
    · rw [hempty] at hrun ⊢
      obtain ⟨rfl, hstate⟩ := Prod.mk.inj hrun
      obtain ⟨-, rfl⟩ := Prod.mk.inj hstate
      exact ⟨rfl, rfl⟩
    · have hvalid : m.checkInsertion (refs.map store) = .ok () :=
        hkey.checkInsertion_eq hproperties (by simpa using htypes)
      have hpos := limit.capacity_pos m.insertProperties.length
      have hchunks : ∀ chunk ∈ chunks (limit.capacity m.insertProperties.length) refs,
          chunk ≠ [] := fun chunk hchunk =>
        List.length_pos_iff.mp (length_of_mem_chunks hpos hchunk).1
      rw [perform_insertAll_eq hempty hvalid] at hrun
      have hrows := hkey.perform_insertChunks hm.coherent _ hchunks hfaults hrun htrace hnumbering
      simpa [flatten_chunks] using hrows
  obtain ⟨hresult, rfl⟩ := hends
  refine ⟨hresult, rfl, fun i h => ?_, fun ref p hp => ?_⟩
  · rw [store.numbered_getElem _ _ hrefs h, Entity.get_set_self]
  · by_cases href : ref ∈ refs
    · obtain ⟨i, h, rfl⟩ := List.getElem_of_mem href
      rw [store.numbered_getElem _ _ hrefs h, Entity.attribute?_set_of_ne _ _ (hp href)]
    · rw [store.numbered_of_not_mem _ _ href]

/-- A database that numbers two insertions from eight on, and is asked after each of them. -/
def numberingConnection : Connection :=
  { dialect := .sqlServer
    driver := { responses := [{ rowCount := some 2 }, { firstRow := some [.int 9] },
      { rowCount := some 1 }, { firstRow := some [.int 10] }] } }

/-- The calls of an insertion after which the last number is asked for. -/
def askedCalls (entities : List Entity) : List Call :=
  [.openCursor, itemMap.insertCall .sqlServer entities, .commit, .execute Keys.lastKeyQuery none,
    .fetchOne, .closeCursor]

theorem keyedBy_itemMap : itemMap.KeyedBy ⟨"id", "id", true⟩ :=
  ⟨rfl, rfl, .annotated (.type .int) [.key { name := "id" }], rfl, rfl⟩

/-- Three items get their numbers by two insertions. -/
theorem insertAll_numbers_items :
    let left := (itemMap.insertAll pairLimit [0, 1, 2]).perform (numberingConnection, itemStore)
    left.1 = .ok 3 ∧ left.2.2 = itemStore.numbered "id" 8 [0, 1, 2] := by
  intro left
  have htrace : left.2.1.driver.trace = [] ++
      (askedCalls ([0, 1].map itemStore) ++ askedCalls ([2].map itemStore)) := by
    decide +kernel
  have htypes : ∀ ref ∈ [0, 1, 2], (itemStore ref).type = itemMap.type := fun _ _ => rfl
  have hnumbering : Numbering .sqlServer 8
      (askedCalls ([0, 1].map itemStore) ++ askedCalls ([2].map itemStore))
      numberingConnection.driver.responses := by
    have hexposes (next : Int) (rows : Nat) :
        Exposes .sqlServer next rows { rowCount := some rows } :=
      ⟨rfl, rfl, rfl, nofun, nofun, nofun⟩
    have htells (next : Int) : TellsLast next { firstRow := some [.int (next - 1)] } :=
      ⟨rfl, rfl, rfl⟩
    refine (numbering_openInsertion _).mpr ⟨hexposes 8 2, ?_⟩
    refine numbering_lastKeyQuery.mpr ⟨htells 10, ?_⟩
    change Numbering .sqlServer 10 (askedCalls ([2].map itemStore)) _
    refine (numbering_openInsertion _).mpr ⟨hexposes 10 1, ?_⟩
    exact numbering_lastKeyQuery.mpr ⟨htells 11, trivial⟩
  have h := insertAll_numbers resolved_itemMap keyedBy_itemMap (by decide) (by decide) pairLimit
    (c := numberingConnection) htypes rfl (show _ = (left.1, (left.2.1, left.2.2)) from rfl) htrace
    hnumbering
  exact ⟨h.1, h.2.1⟩

end TableMap

end RelationalMapper
