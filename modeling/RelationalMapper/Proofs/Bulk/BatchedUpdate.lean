import Mathlib.Algebra.Ring.Int.Defs
import RelationalMapper.Proofs.Bulk.Partition
import RelationalMapper.Proofs.Bulk.Sending
import RelationalMapper.Proofs.Channel.Handing
import RelationalMapper.Proofs.Dialect.Update
import RelationalMapper.Proofs.Mapping.Keys

/-! # Updates in batches

A bulk update sends, in sets under one text, what the updates of its entities would send one by one. Each
value stands at the mark that is bound to the column of its property. -/

namespace RelationalMapper

open RelationalMapper.Action

/-! ## Marks and columns -/

namespace Sql

/-- What each mark is bound to: the column that it is set equal to, or nothing. -/
def boundColumns : List Word → List (Option String)
  | .name column :: .symbol "=" :: .mark :: rest => some column :: boundColumns rest
  | .mark :: rest => none :: boundColumns rest
  | _ :: rest => boundColumns rest
  | [] => []

theorem boundColumns_bindingWords (column : String) (rest : List Word) :
    boundColumns (Dialect.bindingWords column ++ rest) = some column :: boundColumns rest := rfl

/-- Bindings are bound to their columns, in this order. -/
theorem boundColumns_bindings (separator : String) (columns : List String) (rest : List Word) :
    boundColumns ([.symbol separator].intercalate (columns.map Dialect.bindingWords) ++ rest) =
      columns.map some ++ boundColumns rest := by
  induction columns with
  | nil => rfl
  | cons column columns ih =>
      cases columns with
      | nil => exact boundColumns_bindingWords column rest
      | cons next columns =>
          simp only [List.map_cons] at ih ⊢
          rw [List.intercalate_cons_cons, List.append_assoc, List.append_assoc,
            boundColumns_bindingWords, List.singleton_append, List.cons_append, ← ih]
          rfl

end Sql

namespace Dialect

/-- An update is bound to what it assigns, and then to its keys. -/
theorem boundColumns_renderUpdate (d : Dialect) (s : KeyedUpdate) :
    Sql.boundColumns (Sql.words (d.renderUpdate s)) = (s.assigned ++ s.keys).map some := by
  have hkeys := Sql.boundColumns_bindings "AND" s.keys []
  rw [List.append_nil, Sql.boundColumns, List.append_nil] at hkeys
  rw [(d.reads_renderUpdate s).words_eq d.quotes_mem_all, assignmentHead, List.append_assoc]
  -- neither the words in front of the assignments nor the one in front of the keys bind anything
  change Sql.boundColumns ([.symbol ","].intercalate (s.assigned.map bindingWords) ++ _) = _
  rw [Sql.boundColumns_bindings, List.map_append, ← hkeys]
  rfl

end Dialect

/-! ## Answers -/

namespace Driver

/-- The next answers. -/
def answers (d : Driver) (n : Nat) : List Response :=
  (List.range n).map fun i => d.responses.getD i {}

theorem answers_succ (d : Driver) (n : Nat) (calls : List Call) :
    d.answers (n + 1) = d.nextResponse :: (d.after calls 1).answers n := by
  rw [answers, List.range_succ_eq_map, List.map_cons, List.map_map]
  have hhead : d.responses.getD 0 {} = d.nextResponse := by
    rw [nextResponse, List.getD_eq_getElem?_getD, List.headD_eq_head?_getD,
      List.head?_eq_getElem?]
  rw [hhead]
  simp [answers, Function.comp_def]

end Driver

namespace TableMap

variable {m : TableMap}

/-- What an update binds: each property with the column that it is written to or found by. -/
def updateBindings (m : TableMap) : Entries String :=
  m.updateProperties ++ m.keys.values.map fun part => (part.property, part.column)

/-- The values that an update of an entity binds, as they reach a driver. -/
def boundUpdate (m : TableMap) (d : Dialect) (e : Entity) : List Value :=
  m.updateBindings.names.map fun p => (e.get p).bound d.bindingStyle

/-- Every binding is of a property with its column. -/
theorem mem_columns_of_mem_updateBindings (hm : m.Keyed) {binding : String × String}
    (h : binding ∈ m.updateBindings) : binding ∈ m.columns := by
  rcases List.mem_append.mp h with h | h
  · exact (List.mem_filter.mp (mapped_of_mem_updateProperties h)).1
  · obtain ⟨part, hpart, rfl⟩ := List.mem_map.mp h
    exact hm.mem_columns hpart

theorem boundColumns_updateText (m : TableMap) (d : Dialect) :
    Sql.boundColumns (Sql.words (m.updateText d)) = m.updateBindings.values.map some := by
  rw [updateText, d.boundColumns_renderUpdate]
  simp [keyedUpdate, updateBindings, Entries.values, Function.comp_def]

/-- An entity that lacks no key binds its values. -/
theorem updateValues_of_present (hm : m.Coherent) (hkeys : m.keys ≠ []) {e : Entity}
    (h : ¬m.LacksKey e) : m.updateValues e = .ok (m.updateBindings.names.map e.get) := by
  have hpresent : .null ∉ m.keyTuple e := fun hnull => h (List.mem_map.mp hnull)
  rw [updateValues_eq hm, keyValues_eq hm hkeys hpresent]
  simp [updateBindings, keyTuple, Entries.names, Except.map, Function.comp_def]

/-! ## The run -/

/-- The call that sends an update for each of these sets. -/
def updateCall (m : TableMap) (d : Dialect) (sets : List (List Value)) : Call :=
  .executeMany (d.standardize (m.updateText d)) (sets.map (List.map (·.bound d.bindingStyle)))

/-- Sets are sent at once, through a cursor of their own. -/
theorem perform_updateChunk {sets : List (List Value)} (hsets : sets ≠ []) {c : Connection}
    (hcalm : c.driver.Calm) (hfault : c.driver.nextResponse.fault = none) :
    (m.updateChunk sets).perform c =
      (.ok (Channel.batchCount c.driver.nextResponse sets.length),
        c.after (.openCursor :: m.updateCall c.dialect sets :: (c.commitCalls ++ [.closeCursor]))
          1 1) := by
  obtain ⟨s, hqueue, hsql, hbatch, hcursor⟩ := perform_queue sets
    ⟨c, { sql := m.updateText c.dialect, operation := updateOperation }⟩
  rw [List.nil_append] at hbatch
  let call := m.updateCall c.dialect sets
  have hsend := Channel.perform_transmit hcalm.openCursor hcursor rfl hfault call
  let counted : Statement := { s with
    batch := [], cursor := some c.driver.nextResponse
    rowCount := Channel.batchCount c.driver.nextResponse sets.length }
  have hcommit := Channel.perform_onConnection_commit
    (c := c.after [.openCursor, call] 1 1) (s := counted) hcalm.commit
  have hcall : Call.executeMany (Channel.driverText ⟨c, s⟩) (sets.map (Channel.bound ⟨c, s⟩)) =
      call := by
    rw [Channel.driverText, hsql]
    rfl
  have hsent : Channel.executeBatch.perform ⟨c, s⟩ =
      (.ok (Channel.batchCount c.driver.nextResponse sets.length),
        ⟨c.after (.openCursor :: call :: c.commitCalls) 1 1, counted⟩) := by
    rw [Channel.executeBatch, perform_bind_ok (perform_get _)]
    simp only [hbatch, hsets, if_false, hcall]
    rw [perform_bind_ok hsend, perform_bind_ok (Channel.perform_change _ _),
      perform_bind_ok hcommit]
    simp
  have hclose : (c.after (.openCursor :: call :: c.commitCalls) 1 1).driver.waiting?
      .closeCursor = none := hcalm.closeCursor
  have hblock := (perform_bind_ok hqueue (f := fun _ => Channel.executeBatch)).trans hsent
  have hdone := Connection.perform_onStatement hclose rfl hblock
  exact (perform_bind_ok (perform_get c)).trans (hdone.trans (by simp [call]))

/-- A run over chunks sends one batch for each, and adds up what is told of them. -/
theorem perform_updateChunks {cs : List (List (List Value))} (hcs : ∀ sets ∈ cs, sets ≠ [])
    {c : Connection} (total : Int) (hcalm : c.driver.Calm)
    (hanswers : ∀ answer ∈ c.driver.responses, answer.fault = none) :
    ∃ c', (cs.foldlM (fun total chunk => do return total + (← m.updateChunk chunk)) total :
        Action Connection Int).perform c =
          (.ok (total + (List.zipWith (fun answer sets => Channel.batchCount answer sets.length)
            (c.driver.answers cs.length) cs).sum), c') ∧
      Connection.Hands (cs.map (m.updateCall c.dialect)) c c' := by
  induction cs generalizing c total with
  | nil => exact ⟨c, by simp, Connection.hands_of_trace_eq rfl⟩
  | cons sets cs ih =>
      let calls := .openCursor :: m.updateCall c.dialect sets :: (c.commitCalls ++ [.closeCursor])
      have hfault : c.driver.nextResponse.fault = none :=
        Driver.nextResponse_of_forall (P := fun answer => answer.fault = none) rfl hanswers
      have hchunk := perform_updateChunk (m := m) (hcs sets List.mem_cons_self) hcalm hfault
      have hrest : ∀ answer ∈ (c.after calls 1 1).driver.responses, answer.fault = none := by
        intro answer hanswer
        exact hanswers answer (List.mem_of_mem_drop hanswer)
      obtain ⟨c', hrun, hhands⟩ := ih (fun other ho => hcs other (List.mem_cons_of_mem sets ho))
        (c := c.after calls 1 1) (total + Channel.batchCount c.driver.nextResponse sets.length)
        (hcalm.after _ _) hrest
      refine ⟨c', ?_, ?_⟩
      · simp only [List.foldlM_cons, bind_assoc, pure_bind]
        rw [perform_bind_ok hchunk, hrun, List.length_cons, c.driver.answers_succ _ calls]
        simp [Int.add_assoc]
      · have hfirst : Connection.Hands [m.updateCall c.dialect sets] c (c.after calls 1 1) := by
          refine ⟨calls, rfl, ?_⟩
          change _ :: (c.commitCalls ++ [Call.closeCursor]).filter Call.isStatement = _
          rw [List.filter_append, Connection.filter_isStatement_commitCalls]
          rfl
        exact hfirst.trans hhands

/-- Counts that are told of every batch are what is added up. -/
theorem sum_batchCounts {answers : List Response} {counts : List Nat}
    (h : answers.map (·.rowCount) = counts.map fun n : Nat => some (n : Int))
    {cs : List (List (List Value))} (hlength : cs.length = answers.length) :
    (List.zipWith (fun answer sets => Channel.batchCount answer sets.length) answers cs).sum =
      ((counts.sum : Nat) : Int) := by
  induction answers generalizing counts cs with
  | nil =>
      obtain rfl : counts = [] := by simpa using h.symm
      simp
  | cons answer answers ih =>
      obtain ⟨n, counts, rfl⟩ : ∃ n rest, counts = n :: rest := by
        cases counts with
        | nil => simp at h
        | cons n rest => exact ⟨n, rest, rfl⟩
      obtain ⟨sets, cs, rfl⟩ := List.exists_cons_of_length_eq_add_one hlength
      obtain ⟨hcount, hrest⟩ := List.cons.inj h
      have hfirst : Channel.batchCount answer sets.length = n := by
        simp [Channel.batchCount, hcount]
      rw [List.zipWith_cons_cons, List.sum_cons, List.sum_cons, hfirst,
        ih hrest (Nat.succ.inj hlength), Int.natCast_add]

/-! ## Batches and single updates -/

/-- How a bulk update of at most `limit` parameters a call stands to the updates of its entities one by
one: their sets go out in batches, under their text. -/
structure Batched (m : TableMap) (c : Connection) (limit : ParameterLimit) (entities : List Entity)
    (text : String) (batches : List (List (List Value))) : Prop where
  /-- As many calls as runs of sets. -/
  number : batches.length =
    (entities.length + limit.capacity (m.updateProperties.length + m.keys.length) - 1) /
      limit.capacity (m.updateProperties.length + m.keys.length)
  sent : Connection.Hands (batches.map (.executeMany text)) c
    ((m.updateAll limit entities).perform c).2
  /-- Put together, the batches are what the entities would send, in their order. -/
  single : List.Forall₂ (fun e params =>
    Connection.Hands [.execute text (some params)] c ((m.update e).perform c).2)
      entities batches.flatten
  values : batches.flatten = entities.map (m.boundUpdate c.dialect)
  /-- Each mark of the text is bound to the column whose value is sent in its place. -/
  marks : ∃ sql, c.dialect.received text = some sql ∧
    Sql.boundColumns (Sql.words sql) = m.updateBindings.values.map some
  columns : ∀ binding ∈ m.updateBindings, binding ∈ m.columns
  completed : ∃ total, ((m.updateAll limit entities).perform c).1 = .ok total
  /-- Where all calls tell how many rows they changed, so does the bulk update. -/
  counted : ∀ counts : List Nat,
    (c.driver.answers batches.length).map (·.rowCount) =
        counts.map (fun n : Nat => some (n : Int)) →
      ((m.updateAll limit entities).perform c).1 = .ok ((counts.sum : Nat) : Int)

section Valid

variable (hm : m.Resolved) (hkeys : m.keys ≠ []) (hassigned : m.updateProperties ≠ [])

include hm hkeys hassigned

/-- An update of an entity hands its own values over. -/
theorem hands_update {e : Entity} (hpresent : ¬m.LacksKey e) {c : Connection}
    (hopen : c.driver.waiting? .openCursor = none) :
    Connection.Hands
      [.execute (c.dialect.standardize (m.updateText c.dialect)) (some (m.boundUpdate c.dialect e))]
      c ((m.update e).perform c).2 := by
  have hcheck : m.checkUpdatable = .ok () := by simp [checkUpdatable, hkeys, hassigned]
  have hvalues := updateValues_of_present hm.coherent hkeys hpresent
  have hrun : (m.update e).perform c = (Connection.execute (m.updateText c.dialect)
      (m.updateBindings.names.map e.get) updateOperation).perform c := by
    simp [update, perform_bind, hcheck, hvalues]
  have hsent := c.hands_execute (m.updateText c.dialect) (m.updateBindings.names.map e.get)
    updateOperation
  rw [hrun]
  simpa [Connection.handing, hopen, Connection.sending, boundUpdate, Function.comp_def] using hsent

/-- A bulk update runs over the chunks of its sets. -/
theorem perform_updateAll_eq {entities : List Entity} (hentities : entities ≠ [])
    (htypes : ∀ e ∈ entities, e.type = m.type) (hpresent : ∀ e ∈ entities, ¬m.LacksKey e)
    (limit : ParameterLimit) (c : Connection) :
    (m.updateAll limit entities).perform c =
      ((chunks (limit.capacity m.updateWidth)
        (entities.map fun e => m.updateBindings.names.map e.get)).foldlM
          (fun total chunk => do return total + (← m.updateChunk chunk)) 0 :
            Action Connection Int).perform c := by
  have hwidth : 0 < m.updateWidth := Nat.add_pos_right _ (List.length_pos_iff.mpr hkeys)
  have hcheck : m.checkUpdatable = .ok () := by simp [checkUpdatable, hkeys, hassigned]
  have hsets : entities.mapM m.updateValues =
      .ok (entities.map fun e => m.updateBindings.names.map e.get) :=
    mapM_eq_pure fun e he => updateValues_of_present hm.coherent hkeys (hpresent e he)
  simp [updateAll, perform_bind, hentities, checkTypes_eq htypes, hcheck, hsets, inChunks,
    limit.rows_eq hwidth]

/-- A bulk update that nothing is wrong with sends what the updates of its entities would send, in
batches. -/
theorem updateAll_batched {entities : List Entity} (hentities : entities ≠ [])
    (htypes : ∀ e ∈ entities, e.type = m.type) (hpresent : ∀ e ∈ entities, ¬m.LacksKey e)
    (limit : ParameterLimit) {c : Connection} (hcalm : c.driver.Calm)
    (hanswers : ∀ answer ∈ c.driver.responses, answer.fault = none) :
    ∃ text batches, m.Batched c limit entities text batches := by
  have hk := limit.capacity_pos m.updateWidth
  let sets := entities.map fun e => m.updateBindings.names.map e.get
  let cs := chunks (limit.capacity m.updateWidth) sets
  have hcs : ∀ chunk ∈ cs, chunk ≠ [] := fun chunk hchunk =>
    List.length_pos_iff.mp (length_of_mem_chunks hk hchunk).1
  obtain ⟨c', hrun, hhands⟩ := perform_updateChunks (m := m) hcs 0 hcalm hanswers
  rw [← perform_updateAll_eq hm hkeys hassigned hentities htypes hpresent limit, Int.zero_add] at hrun
  have hflat : (cs.map (List.map (List.map (·.bound c.dialect.bindingStyle)))).flatten =
      entities.map (m.boundUpdate c.dialect) := by
    rw [← List.map_flatten, flatten_chunks]
    simp [sets, boundUpdate, Function.comp_def]
  refine ⟨c.dialect.standardize (m.updateText c.dialect),
    cs.map (List.map (List.map (·.bound c.dialect.bindingStyle))), {
      number := by
        rw [List.length_map, length_chunks hk, List.length_map]
        rfl
      sent := ?_
      single := ?_
      values := hflat
      marks := ⟨_, c.dialect.received_standardize _, m.boundColumns_updateText _⟩
      columns := fun binding => mem_columns_of_mem_updateBindings hm.keyed
      completed := ⟨_, congrArg Prod.fst hrun⟩
      counted := fun counts hcounts => ?_ }⟩
  · rw [hrun, List.map_map]
    exact hhands
  · rw [hflat, List.forall₂_map_right_iff, List.forall₂_same]
    exact fun e he => hands_update hm hkeys hassigned (hpresent e he) hcalm.openCursor
  · rw [List.length_map] at hcounts
    rw [hrun, sum_batchCounts hcounts (by simp [Driver.answers])]

end Valid

/-- An item with its number. -/
def numberedItem (n : Int) : Entity :=
  { type := itemClass, attributes := [("id", .int n), ("name", .text (toString n))] }

theorem not_lacksKey_numberedItem (n : Int) : ¬itemMap.LacksKey (numberedItem n) := by
  rintro ⟨part, hpart, hnull⟩
  obtain rfl := List.mem_singleton.mp hpart
  cases (show Value.int n = .null from hnull)

/-- Three items take two calls under a limit of five parameters. -/
theorem updateAll_batched_items :
    ∃ text batches, itemMap.Batched { dialect := .sqlite } ⟨5, by decide⟩
      [numberedItem 1, numberedItem 2, numberedItem 3] text batches := by
  have hpresent : ∀ e ∈ [numberedItem 1, numberedItem 2, numberedItem 3], ¬itemMap.LacksKey e := by
    simp [not_lacksKey_numberedItem]
  exact updateAll_batched resolved_itemMap (by decide) (by decide) (by simp)
    (by simp [numberedItem, itemMap]) hpresent ⟨5, by decide⟩ (.of_faults rfl) (by simp)

end TableMap

end RelationalMapper
