import RelationalMapper.Bulk.Insert
import RelationalMapper.Proofs.Channel.Keys
import RelationalMapper.Proofs.Mapping.Resolved

/-! # One insertion of several entities

An insertion that is served sends one statement for its entities, with their values row by row, and
hands the keys that the driver tells to the entities. -/

namespace RelationalMapper

namespace TableMap

variable {m : TableMap}

/-! ## Checks -/

theorem checkTypes_eq {entities : List Entity} (h : ∀ e ∈ entities, e.type = m.type) :
    m.checkTypes entities = .ok () := by
  have hfind : entities.find? (·.type ≠ m.type) = none :=
    List.find?_eq_none.mpr fun e he => by simp [h e he]
  rw [checkTypes, hfind]

/-! ## What is told -/

/-- The last key has to be asked for after an insertion with this answer. -/
def asks (m : TableMap) (d : Dialect) (answer : Response) : Bool :=
  m.singleAutoKey?.isSome && Keys.asks d (max (answer.rowCount.getD 0) 0)

/-- The number of rows and the keys by the answer to an insertion and the next answer. -/
def told (m : TableMap) (d : Dialect) (answer next : Response) :
    Except Failure (Int × List (Except Failure Value)) :=
  if (m.returnedKey? d).isSome then
    .ok ((Channel.rowsIn answer).length, (Channel.rowsIn answer).map Row.head?)
  else
    match answer.rowCount with
    | none => .error Channel.noRowCount
    | some n =>
      if m.singleAutoKey?.isNone then .ok (max n 0, [])
      else (Keys.told d answer next (max n 0)).map fun keys => (max n 0, keys.map .ok)

/-- The answers serve one insertion, and tell this number of rows and these keys. -/
structure Answered (m : TableMap) (d : Dialect) (answers : List Response) (count : Int)
    (keys : List (Except Failure Value)) : Prop where
  fault : (answers.headD {}).fault = none
  fetchFault : (m.returnedKey? d).isSome = true → (answers.headD {}).fetchFault = none
  told : m.told d (answers.headD {}) (answers.tail.headD {}) = .ok (count, keys)
  next : m.asks d (answers.headD {}) = true →
    (answers.tail.headD {}).fault = none ∧ (answers.tail.headD {}).fetchFault = none

/-- How many answers an insertion takes. -/
def answersTaken (m : TableMap) (d : Dialect) (answers : List Response) : Nat :=
  if m.asks d (answers.headD {}) then 2 else 1

/-- The calls of an insertion through its cursor, up to closing it. -/
def insertionCalls (m : TableMap) (c : Connection) (call : Call) : List Call :=
  let answer := c.driver.nextResponse
  .openCursor :: call ::
    if (m.returnedKey? c.dialect).isSome then Channel.fetchCalls answer ++ c.commitCalls
    else c.commitCalls ++
      if m.asks c.dialect answer then [.execute Keys.lastKeyQuery none, .fetchOne] else []

theorem not_asks_of_returned {d : Dialect} (h : (m.returnedKey? d).isSome = true)
    (answer : Response) : m.asks d answer = false := by
  have hd : d = .postgres := by
    cases d with
    | postgres => rfl
    | _ => simp [returnedKey?, Dialect.returnsKeys] at h
  simp [asks, Keys.asks, hd]

/-- Sending an insertion tells this number of rows and these keys, and leaves an open cursor behind
the calls of one insertion. -/
def Sends (m : TableMap) (c : Connection) (s : Statement) (params : List Value) (count : Int)
    (keys : List (Except Failure Value)) : Prop :=
  ∃ s' last, s'.cursor = some last ∧
    (m.sendInsertion params).perform ⟨c, s⟩ = (.ok (count, keys),
      ⟨c.after (m.insertionCalls c (Channel.executeCall c s params))
        (m.answersTaken c.dialect c.driver.responses) 1, s'⟩)

section Sending

variable {c : Connection} {s : Statement} {answer : Response}

/-- The result of the insertion gives the keys. -/
theorem sends_returning (params : List Value) (hcalm : c.driver.Calm)
    (hcursor : s.cursor = none) (hoperation : s.operation ≠ Statement.reading)
    (hanswer : c.driver.nextResponse = answer) (hfault : answer.fault = none)
    (hfetch : answer.fetchFault = none) (hreturned : (m.returnedKey? c.dialect).isSome = true) :
    m.Sends c s params (Channel.rowsIn answer).length
      ((Channel.rowsIn answer).map Row.head?) := by
  have hasks := m.not_asks_of_returned hreturned
  have hquery := Channel.perform_executeQuery (s := s.bindAll params) hcalm hcursor
    (s.parameters_bindAll params) hanswer hfault hfetch hoperation
  refine ⟨{ s.bindAll params with
    cursor := some answer, rowCount := (Channel.rowsIn answer).length }, answer, rfl, ?_⟩
  simp [sendInsertion, Action.perform_bind, Channel.perform_change, hreturned, hquery,
    Except.map, insertionCalls, answersTaken, hasks, hanswer]

/-- The driver tells how many rows there were, and no key is wanted. -/
theorem sends_counting (params : List Value) (hcalm : c.driver.Calm)
    (hcursor : s.cursor = none) (hanswer : c.driver.nextResponse = answer)
    (hfault : answer.fault = none) {n : Int} (hcount : answer.rowCount = some n)
    (hreturned : ¬(m.returnedKey? c.dialect).isSome = true)
    (hkey : m.singleAutoKey?.isNone = true) : m.Sends c s params (max n 0) [] := by
  have hasks : ∀ answer, m.asks c.dialect answer = false := by
    intro answer
    simp only [Option.isNone_iff_eq_none] at hkey
    simp [asks, hkey]
  have hupdate := Channel.perform_executeUpdate (s := s.bindAll params) hcalm hcursor
    (s.parameters_bindAll params) hanswer hfault hcount
  refine ⟨{ s.bindAll params with cursor := some answer, rowCount := max n 0 }, answer, rfl, ?_⟩
  simp [sendInsertion, Action.perform_bind, Channel.perform_change, hreturned, hupdate, hkey,
    Except.map, insertionCalls, answersTaken, hasks]

/-- The keys are recovered from what the driver remembers. -/
theorem sends_recovering (params : List Value) (hcalm : c.driver.Calm)
    (hcursor : s.cursor = none) (hanswer : c.driver.nextResponse = answer)
    (hfault : answer.fault = none) {n : Int} (hcount : answer.rowCount = some n)
    (hreturned : ¬(m.returnedKey? c.dialect).isSome = true)
    (hkey : m.singleAutoKey?.isSome = true) {next : Response}
    (hresponse : c.driver.responses.tail.headD {} = next)
    (hnext : Keys.asks c.dialect (max n 0) = true → next.fault = none ∧ next.fetchFault = none)
    {recovered : List Value} (hrecovered : Keys.told c.dialect answer next (max n 0) = .ok recovered) :
    m.Sends c s params (max n 0) (recovered.map .ok) := by
  have hasks : m.asks c.dialect (c.driver.responses.headD {}) = Keys.asks c.dialect (max n 0) := by
    have hhead : c.driver.responses.headD {} = answer := hanswer
    rw [asks, hkey, hhead, hcount, Option.getD_some, Bool.true_and]
  have hnotnone : ¬m.singleAutoKey?.isNone = true := by
    simpa [Option.isSome_iff_ne_none] using hkey
  have hupdate := Channel.perform_executeUpdate (s := s.bindAll params) hcalm hcursor
    (s.parameters_bindAll params) hanswer hfault hcount
  have hsent : (c.after (.openCursor :: Channel.executeCall c s params :: c.commitCalls)
      1 1).driver.nextResponse = next := by
    rw [← hresponse, ← List.drop_one]
    rfl
  have hgenerated := Channel.perform_generatedKeys
    (s := { s.bindAll params with cursor := some answer, rowCount := max n 0 })
    (fun ha => ⟨hsent, hnext ha⟩) rfl hrecovered
  refine ⟨{ s.bindAll params with
    cursor := some (if Keys.asks c.dialect (max n 0) then next else answer)
    rowCount := max n 0 }, _, rfl, ?_⟩
  have hcalls : m.asks c.dialect c.driver.nextResponse = Keys.asks c.dialect (max n 0) := hasks
  rw [insertionCalls, answersTaken, hasks, hcalls]
  by_cases ha : Keys.asks c.dialect (max n 0) = true <;>
    simp [sendInsertion, Action.perform_bind, Channel.perform_change, hreturned, hupdate,
      hnotnone, hgenerated, ha, Except.map, Keys.askCalls]

/-- An insertion that is answered is sent with what the answers tell. -/
theorem sends_of_answered (params : List Value) {count : Int} {keys : List (Except Failure Value)}
    (hcalm : c.driver.Calm) (hcursor : s.cursor = none)
    (hoperation : s.operation ≠ Statement.reading)
    (h : m.Answered c.dialect c.driver.responses count keys) :
    m.Sends c s params count keys := by
  obtain ⟨hfault, hfetch, htold, hnext⟩ := h
  by_cases hreturned : (m.returnedKey? c.dialect).isSome = true
  · rw [told, if_pos hreturned] at htold
    obtain ⟨rfl, rfl⟩ := Prod.mk.inj (Except.ok.inj htold)
    exact sends_returning params hcalm hcursor hoperation rfl hfault (hfetch hreturned) hreturned
  · rw [told, if_neg hreturned] at htold
    cases hcount : (c.driver.responses.headD {}).rowCount with
    | none =>
        rw [hcount] at htold
        contradiction
    | some n =>
        rw [hcount] at htold
        by_cases hkey : m.singleAutoKey?.isNone = true
        · simp only [if_pos hkey] at htold
          obtain ⟨rfl, rfl⟩ := Prod.mk.inj (Except.ok.inj htold)
          exact sends_counting params hcalm hcursor rfl hfault hcount hreturned hkey
        · simp only [if_neg hkey] at htold
          obtain ⟨recovered, hrecovered, hpair⟩ := map_eq_ok.mp htold
          obtain ⟨rfl, rfl⟩ := Prod.mk.inj hpair
          have hsome : m.singleAutoKey?.isSome = true := by
            simpa [Option.isSome_iff_ne_none] using hkey
          rw [asks, hsome, hcount, Option.getD_some, Bool.true_and] at hnext
          exact sends_recovering params hcalm hcursor rfl hfault hcount hreturned hsome rfl hnext
            hrecovered

end Sending

/-! ## What is sent for entities -/

/-- The values that an insertion binds for an entity, in the order of the columns. -/
def insertRow (m : TableMap) (e : Entity) : List Value := m.insertProperties.names.map e.get

/-- These values of several entities as they reach a driver, row by row. -/
def boundRows (m : TableMap) (d : Dialect) (entities : List Entity) : List Value :=
  entities.flatMap fun e => (m.insertRow e).map (·.bound d.bindingStyle)

/-- The call that inserts entities. -/
def insertCall (m : TableMap) (d : Dialect) (entities : List Entity) : Call :=
  .execute (d.standardize (m.insertText d entities.length)) (some (m.boundRows d entities))

theorem value_eq {p : String} (h : ∃ hint, m.fields.get? p = some hint) (e : Entity) :
    m.value e p = .ok (e.get p) := by
  obtain ⟨hint, hint_eq⟩ := h
  simp [value, requireField, hint_eq, Except.map]

theorem insertValues_eq (hm : m.Coherent) (e : Entity) :
    m.insertValues e = .ok (m.insertRow e) :=
  mapM_eq_pure fun _ hp => value_eq (hm.field_of_insertion hp) e

section Chunk

variable {κ : Type} [DecidableEq κ] {refs : List κ} {c : Connection} {store store' : EntityStore κ}

/-- An insertion whose keys are written back to the entities. -/
def sendKeyed (m : TableMap) (refs : List κ) (params : List Value) :
    Action (Channel × EntityStore κ) Int := do
  let (count, keys) ← (m.sendInsertion params).first
  (m.assignKeys refs keys).second
  return count

/-- A chunk is one statement that binds the values of its entities. -/
theorem insertChunk_eq (hm : m.Coherent) (refs : List κ) (c : Connection)
    (store : EntityStore κ) :
    (m.insertChunk refs).perform (c, store) =
      (Connection.withStatement (m.insertText c.dialect refs.length) insertOperation
        (m.sendKeyed refs (refs.flatMap fun ref => m.insertRow (store ref)))).perform
          (c, store) := by
  have hparams : (refs.mapM fun ref => m.insertValues (store ref)) =
      .ok (refs.map fun ref => m.insertRow (store ref)) :=
    mapM_eq_pure fun ref _ => insertValues_eq hm (store ref)
  simp only [insertChunk, Action.perform_bind, Action.perform_get, hparams,
    Action.perform_ofExcept, List.flatMap_def]
  rfl

/-- One chunk is one insertion with the values of its entities, and they get their keys. -/
theorem perform_insertChunk (hm : m.Coherent) (hcalm : c.driver.Calm) {count : Int}
    {keys : List (Except Failure Value)}
    (h : m.Answered c.dialect c.driver.responses count keys)
    (hassign : (m.assignKeys refs keys).perform store = (.ok (), store')) :
    (m.insertChunk refs).perform (c, store) = (.ok count,
      (c.after (m.insertionCalls c (m.insertCall c.dialect (refs.map store)) ++ [.closeCursor])
        (m.answersTaken c.dialect c.driver.responses) 1, store')) := by
  let rows := refs.flatMap fun ref => m.insertRow (store ref)
  let fresh : Statement := { sql := m.insertText c.dialect refs.length, operation := insertOperation }
  have hcall : Channel.executeCall c fresh rows = m.insertCall c.dialect (refs.map store) := by
    simp [Channel.executeCall, insertCall, boundRows, rows, fresh, List.map_flatMap,
      List.flatMap_map]
  have hwriting : insertOperation ≠ Statement.reading := by decide
  obtain ⟨s, last, hcursor, hsend⟩ := m.sends_of_answered rows hcalm
    (show fresh.cursor = none from rfl) hwriting h
  rw [hcall] at hsend
  have hblock : (m.sendKeyed refs rows).perform (⟨c, fresh⟩, store) =
      (.ok count, (⟨c.after (m.insertionCalls c (m.insertCall c.dialect (refs.map store)))
        (m.answersTaken c.dialect c.driver.responses) 1, s⟩, store')) := by
    simp [sendKeyed, Action.perform_bind, hsend, hassign, Except.map]
  have hclose : (c.after (m.insertionCalls c (m.insertCall c.dialect (refs.map store)))
      (m.answersTaken c.dialect c.driver.responses) 1).driver.waiting? .closeCursor = none :=
    hcalm.closeCursor
  have hstatement := Connection.perform_withStatement hclose hcursor hblock
  rw [insertChunk_eq hm, hstatement]
  simp

end Chunk

end TableMap

/-! ## Attributes that change -/

namespace Entity

theorem get_set_self (e : Entity) (p : String) (v : Value) : (e.set p v).get p = v := by
  simp [get, attribute?, set, Entries.get?_put_self]

theorem attribute?_set_of_ne (e : Entity) {p other : String} (v : Value) (h : other ≠ p) :
    (e.set p v).attribute? other = e.attribute? other := by
  simp [attribute?, set, Entries.get?_put_of_ne _ _ h]

theorem get_set_of_ne (e : Entity) {p other : String} (v : Value) (h : other ≠ p) :
    (e.set p v).get other = e.get other := by
  rw [get, attribute?_set_of_ne e v h, get]

end Entity

namespace TableMap

variable {m : TableMap}

/-- An automatic key is not among the properties that an insertion binds. -/
theorem not_mem_insertProperties {part : KeyPart} (h : m.singleAutoKey? = some part) :
    part.property ∉ m.insertProperties.names := by
  have hauto : m.keys.values.find? (·.auto) = some part := by
    unfold singleAutoKey? at h
    split at h
    · exact h
    · contradiction
  have hpart : part.property ∈ autoProperties m.keys :=
    List.mem_map.mpr ⟨part, List.mem_filter.mpr
      ⟨List.mem_of_find?_eq_some hauto, List.find?_some hauto⟩, rfl⟩
  intro hmem
  obtain ⟨e, he, heq⟩ := List.mem_map.mp hmem
  have := (List.mem_filter.mp he).2
  simp only [heq] at this
  exact absurd hpart (by simpa using this)

/-- A key that is written back changes nothing that an insertion binds. -/
theorem insertRow_of_withKey {e e' : Entity} {key : Except Failure Value}
    (h : m.withKey e key = .ok e') : m.insertRow e' = m.insertRow e := by
  obtain ⟨value, -, h⟩ := bind_eq_ok.mp h
  split at h
  · rename_i part hpart
    obtain ⟨hint, -, h⟩ := bind_eq_ok.mp h
    obtain ⟨w, -, h⟩ := bind_eq_ok.mp h
    obtain rfl := Except.ok.inj h
    refine List.map_congr_left fun p hp => e.get_set_of_ne w ?_
    rintro rfl
    exact not_mem_insertProperties hpart hp
  · obtain rfl := Except.ok.inj h
    rfl

/-- The key is there and enters the field of the automatic key. -/
def Takes (m : TableMap) (key : Except Failure Value) : Prop :=
  ∃ v, key = .ok v ∧ ∀ part ∈ m.singleAutoKey?, ∀ hint, m.fields.get? part.property = some hint →
    ∃ w, hint.convert v = .ok w

theorem withKey_of_takes (hm : m.Coherent) {key : Except Failure Value} (h : m.Takes key)
    (e : Entity) : ∃ e', m.withKey e key = .ok e' := by
  obtain ⟨v, rfl, h⟩ := h
  cases hkey : m.singleAutoKey? with
  | none => exact ⟨e, by simp [withKey, hkey, bind, Except.bind, pure, Except.pure]⟩
  | some part =>
      have hauto : part ∈ m.keys.values := by
        unfold singleAutoKey? at hkey
        split at hkey
        · exact List.mem_of_find?_eq_some hkey
        · contradiction
      obtain ⟨hint, hfield⟩ := hm.field_of_key hauto
      obtain ⟨w, hw⟩ := h part hkey hint hfield
      refine ⟨e.set part.property w, ?_⟩
      simp [withKey, hkey, assignKey, requireField, hfield, hw, bind, Except.bind, pure, Except.pure]

section Assign

variable {κ : Type} [DecidableEq κ]

/-- Keys that fields take are written back, and change nothing that an insertion binds. -/
theorem perform_assignKeys (hm : m.Coherent) (refs : List κ) {keys : List (Except Failure Value)}
    (h : ∀ key ∈ keys, m.Takes key) (store : EntityStore κ) :
    ∃ store', (m.assignKeys refs keys).perform store = (.ok (), store') ∧
      ∀ ref, m.insertRow (store' ref) = m.insertRow (store ref) := by
  unfold assignKeys
  have hpairs : ∀ pair ∈ refs.zip keys, m.Takes pair.2 := fun pair hp =>
    h pair.2 (List.of_mem_zip (a := pair.1) (b := pair.2) hp).2
  generalize refs.zip keys = pairs at hpairs
  induction pairs generalizing store with
  | nil => exact ⟨store, rfl, fun _ => rfl⟩
  | cons pair pairs ih =>
      obtain ⟨e, hkey⟩ := withKey_of_takes hm (hpairs pair List.mem_cons_self) (store pair.1)
      have hrow := insertRow_of_withKey hkey
      obtain ⟨store', hrest, hrows⟩ := ih (store.put pair.1 e)
        fun p hp => hpairs p (List.mem_cons_of_mem pair hp)
      refine ⟨store', ?_, fun ref => ?_⟩
      · simpa [Action.perform_bind, hkey] using hrest
      · rw [hrows ref]
        by_cases href : ref = pair.1
        · rw [href, EntityStore.put_self, hrow]
        · rw [EntityStore.put_of_ne store e href]

end Assign

end TableMap

end RelationalMapper
