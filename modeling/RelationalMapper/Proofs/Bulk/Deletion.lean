import RelationalMapper.Bulk.Delete
import RelationalMapper.Proofs.Bulk.Insertion
import RelationalMapper.Proofs.Bulk.Chunk
import RelationalMapper.Proofs.Dialect.Deletion

/-! # What a bulk deletion takes

The keys of the entities reach the driver in runs of one size. Read with what is bound to them, the
deletions take the rows with these keys, and no others. -/

namespace RelationalMapper

namespace TableMap

variable {m : TableMap}

/-! ## Keys -/

/-- The values of the keys of an entity. -/
def keyTuple (m : TableMap) (e : Entity) : List Value :=
  m.keys.values.map fun part => e.get part.property

/-- The values of the keys as they reach a driver. -/
def boundKey (m : TableMap) (d : Dialect) (e : Entity) : List Value :=
  (m.keyTuple e).map (·.bound d.bindingStyle)

/-- What is null for a driver includes what is null by itself. -/
theorem not_mem_keyTuple {d : Dialect} {e : Entity} (h : .null ∉ m.boundKey d e) :
    .null ∉ m.keyTuple e := by
  intro hnull
  apply h
  exact List.mem_map.mpr ⟨.null, hnull, rfl⟩

theorem keyValues_eq (hm : m.Coherent) (hkeys : m.keys ≠ []) {e : Entity}
    (h : .null ∉ m.keyTuple e) (operation : String) :
    m.keyValues e operation = .ok (m.keyTuple e) := by
  rw [keyValues, if_neg hkeys]
  refine mapM_eq_pure fun part hpart => ?_
  have hvalue := value_eq (hm.field_of_key hpart) e
  have hpresent : e.get part.property ≠ .null := by
    intro hnull
    exact h (List.mem_map.mpr ⟨part, hpart, hnull⟩)
  simp [hvalue, hpresent, bind, Except.bind]
  rfl

theorem length_boundKey (m : TableMap) (d : Dialect) (e : Entity) :
    (m.boundKey d e).length = m.keyColumns.length := by
  simp [boundKey, keyTuple, keyColumns]

/-! ## One deletion -/

def deleteText (m : TableMap) (d : Dialect) (count : Nat) : String :=
  d.renderDeletion { table := m.table, rows := m.choice count }

/-- Keys of one part are their parts one by one. -/
theorem eq_map_singleton {keys : List (List Value)} (h : ∀ key ∈ keys, key.length = 1) :
    keys = keys.flatten.map fun v => [v] := by
  induction keys with
  | nil => rfl
  | cons key keys ih =>
      have hrest := ih fun other ho => h other (List.mem_cons_of_mem key ho)
      obtain ⟨v, rfl⟩ := List.length_eq_one_iff.mp (h key List.mem_cons_self)
      rw [List.flatten_cons, List.map_append, ← hrest]
      rfl

/-- A deletion takes the rows with the keys that are bound to it. -/
theorem deletionOf?_deleteText (d : Dialect) (hcolumns : m.keyColumns ≠ [])
    {keys : List (List Value)} (hkeys : keys ≠ [])
    (hlength : ∀ key ∈ keys, key.length = m.keyColumns.length)
    (hnull : ∀ key ∈ keys, .null ∉ key) :
    ∃ choice : Sql.Choice,
      Sql.deletionOf? (m.deleteText d keys.length) keys.flatten = some (m.table, choice) ∧
        ∀ row, choice.holds row = decide (m.keyColumns.map row ∈ keys) := by
  unfold deleteText choice
  generalize m.keyColumns = columns at hcolumns hlength ⊢
  split
  · rename_i column
    have hkeys_eq := eq_map_singleton hlength
    generalize keys.flatten = values at hkeys_eq ⊢
    subst hkeys_eq
    have hvalues : values ≠ [] := by simpa using hkeys
    have hpresent : .null ∉ values := by
      intro hmem
      exact hnull [.null] (List.mem_map.mpr ⟨.null, hmem, rfl⟩) List.mem_cons_self
    refine ⟨[[⟨column, values⟩]], ?_, fun row => ?_⟩
    · rw [List.length_map]
      exact d.deletionOf?_oneOf m.table column hvalues
    · rw [Sql.Choice.holds_among column hpresent]
      simp
  · exact ⟨_, d.deletionOf?_anyOf m.table hcolumns hkeys hlength,
      Sql.Choice.holds_groups hlength hnull⟩

/-! ## The run -/

/-- The answer to a change that did not fail tells how many rows it was. -/
def Counted (answer : Response) : Prop := answer.fault = none ∧ answer.rowCount.isSome = true

theorem counted_nextResponse {d : Driver} (h : ∀ answer ∈ d.responses, Counted answer) :
    Counted d.nextResponse := Driver.nextResponse_of_forall ⟨rfl, rfl⟩ h

/-- The calls of one deletion. -/
def deletionCalls (m : TableMap) (c : Connection) (keys : List (List Value)) : List Call :=
  .openCursor :: .execute (c.dialect.standardize (m.deleteText c.dialect keys.length))
    (some (keys.flatten.map (·.bound c.dialect.bindingStyle))) :: (c.commitCalls ++ [.closeCursor])

theorem perform_deleteChunk (keys : List (List Value)) {c : Connection}
    (hcalm : c.driver.Calm) (hanswers : ∀ answer ∈ c.driver.responses, Counted answer) :
    ∃ count, (m.deleteChunk keys).perform c =
      (.ok count, c.after (m.deletionCalls c keys) 1 1) := by
  obtain ⟨hfault, hcount⟩ := counted_nextResponse hanswers
  obtain ⟨n, hn⟩ := Option.isSome_iff_exists.mp hcount
  have hsent := Connection.perform_execute (m.deleteText c.dialect keys.length) keys.flatten
    deleteOperation hcalm rfl hfault hn
  exact ⟨max n 0, (Action.perform_bind_ok (Action.perform_get c)).trans hsent⟩

theorem handed_deletionCalls (c : Connection) (keys : List (List Value)) :
    c.dialect.handed "DELETE" (m.deletionCalls c keys) =
      [(m.deleteText c.dialect keys.length,
        keys.flatten.map (·.bound c.dialect.bindingStyle))] := by
  have hdelete := c.dialect.beginsWith_renderDeletion
    { table := m.table, rows := m.choice keys.length }
  have hcalls : m.deletionCalls c keys = [.openCursor] ++ ([.execute
      (c.dialect.standardize (m.deleteText c.dialect keys.length))
      (some (keys.flatten.map (·.bound c.dialect.bindingStyle)))] ++
        (c.commitCalls ++ [.closeCursor])) := rfl
  rw [hcalls, Dialect.handed_append, Dialect.handed_append, Dialect.handed_append,
    Dialect.handed_commitCalls, deleteText, Dialect.handed_execute hdelete]
  rfl

/-- A run over chunks hands one deletion for each chunk to the driver. -/
theorem perform_deleteChunks (cs : List (List (List Value))) {c : Connection} (total : Int)
    (hcalm : c.driver.Calm) (hanswers : ∀ answer ∈ c.driver.responses, Counted answer) :
    ∃ total' c' calls,
      (cs.foldlM (fun total chunk => do return total + (← m.deleteChunk chunk)) total :
        Action Connection Int).perform c = (.ok total', c') ∧
      c'.driver.trace = c.driver.trace ++ calls ∧
      c.dialect.handed "DELETE" calls = cs.map fun keys =>
        (m.deleteText c.dialect keys.length,
          keys.flatten.map (·.bound c.dialect.bindingStyle)) := by
  induction cs generalizing c total with
  | nil => exact ⟨total, c, [], rfl, by simp, rfl⟩
  | cons keys cs ih =>
      obtain ⟨count, hchunk⟩ := m.perform_deleteChunk keys hcalm hanswers
      have hrest : ∀ answer ∈ (c.after (m.deletionCalls c keys) 1 1).driver.responses,
          Counted answer := by
        intro answer hanswer
        exact hanswers answer (List.mem_of_mem_drop hanswer)
      obtain ⟨total', c', calls, hrun, htrace, hcalls⟩ := ih
        (c := c.after (m.deletionCalls c keys) 1 1) (total + count)
        (hcalm.after _ _) hrest
      refine ⟨total', c', m.deletionCalls c keys ++ calls, ?_, ?_, ?_⟩
      · simp only [List.foldlM_cons, bind_assoc, pure_bind]
        rw [Action.perform_bind_ok hchunk]
        exact hrun
      · rw [htrace, Connection.driver_after, Driver.trace_after, List.append_assoc]
      · rw [Connection.dialect_after] at hcalls
        rw [Dialect.handed_append, handed_deletionCalls, hcalls, List.map_cons,
          List.singleton_append]

/-- Deletions by chunks of keys leave the rows that have none of all these keys. -/
theorem afterDeletions?_chunks (d : Dialect) (hcolumns : m.keyColumns ≠ [])
    {cs : List (List (List Value))} (hcs : ∀ keys ∈ cs, keys ≠ [])
    (hkeys : ∀ keys ∈ cs, ∀ key ∈ keys, key.length = m.keyColumns.length ∧ .null ∉ key)
    (tables : Sql.Tables) :
    tables.afterDeletions? (cs.map fun keys => (m.deleteText d keys.length, keys.flatten)) =
      some (tables.without m.table fun row => m.keyColumns.map row ∈ cs.flatten) := by
  induction cs generalizing tables with
  | nil =>
      rw [tables.without_of_forall m.table fun row => by simp]
      rfl
  | cons keys cs ih =>
      have hfirst := hkeys keys List.mem_cons_self
      obtain ⟨choice, hchoice, hholds⟩ := m.deletionOf?_deleteText d hcolumns
        (hcs keys List.mem_cons_self) (fun key hkey => (hfirst key hkey).1)
        fun key hkey => (hfirst key hkey).2
      have hrest := ih (fun other ho => hcs other (List.mem_cons_of_mem keys ho))
        (fun other ho => hkeys other (List.mem_cons_of_mem keys ho))
        (tables.without m.table choice.holds)
      rw [List.map_cons, Sql.Tables.afterDeletions?, hchoice]
      simp only [Option.bind_eq_bind, Option.bind_some, hrest]
      rw [Sql.Tables.without_without]
      congr 2
      funext row
      rw [hholds]
      simp

/-! ## What is taken -/

/-- How deletions of at most `limit` parameters take the rows of entities. -/
structure Removal (m : TableMap) (d : Dialect) (limit : ParameterLimit) (entities : List Entity)
    (sent : List (String × List Value)) : Prop where
  /-- As many statements as runs of keys. -/
  number : sent.length = (entities.length + limit.capacity m.keys.length - 1) /
    limit.capacity m.keys.length
  /-- A key of one part takes one parameter. -/
  single : m.keys.length = 1 → sent.length = (entities.length + limit.count - 1) / limit.count
  /-- Whatever the tables hold, just the rows are taken whose keys are those of an entity. -/
  left : ∀ tables : Sql.Tables, tables.afterDeletions? sent =
    some (tables.without m.table fun row => m.keyColumns.map row ∈ entities.map (m.boundKey d))

/-- Deletions of the chunks of keys take these rows. -/
theorem removal_chunks (hkeys : m.keys ≠ []) (d : Dialect) (limit : ParameterLimit)
    {entities : List Entity} (hpresent : ∀ e ∈ entities, .null ∉ m.boundKey d e) :
    m.Removal d limit entities
      ((chunks (limit.capacity m.keys.length) (entities.map (m.boundKey d))).map fun keys =>
        (m.deleteText d keys.length, keys.flatten)) := by
  have hpos := limit.capacity_pos m.keys.length
  have hcolumns : m.keyColumns ≠ [] := by simpa [keyColumns, Entries.values] using hkeys
  have hnumber : ((chunks (limit.capacity m.keys.length) (entities.map (m.boundKey d))).map
      fun keys => (m.deleteText d keys.length, keys.flatten)).length =
        (entities.length + limit.capacity m.keys.length - 1) / limit.capacity m.keys.length := by
    rw [List.length_map, length_chunks hpos, List.length_map]
  refine ⟨hnumber, fun hone => ?_, fun tables => ?_⟩
  · have hcapacity : limit.capacity m.keys.length = limit.count := by
      have hcount := limit.positive
      rw [hone, ParameterLimit.capacity, Nat.div_one]
      omega
    rw [hnumber, hcapacity]
  · have hcs : ∀ keys ∈ chunks (limit.capacity m.keys.length) (entities.map (m.boundKey d)),
        keys ≠ [] := by
      intro keys hmem
      exact List.length_pos_iff.mp (length_of_mem_chunks hpos hmem).1
    have hall := flatten_chunks (limit.capacity m.keys.length) (entities.map (m.boundKey d))
    have hkeys : ∀ keys ∈ chunks (limit.capacity m.keys.length) (entities.map (m.boundKey d)),
        ∀ key ∈ keys, key.length = m.keyColumns.length ∧ .null ∉ key := by
      intro keys hmem key hkey
      have hgiven : key ∈ entities.map (m.boundKey d) := by
        rw [← hall]
        exact List.mem_flatten.mpr ⟨keys, hmem, hkey⟩
      obtain ⟨e, he, rfl⟩ := List.mem_map.mp hgiven
      exact ⟨m.length_boundKey d e, hpresent e he⟩
    rw [m.afterDeletions?_chunks d hcolumns hcs hkeys tables, hall]

/-- A bulk deletion whose keys are all there takes the rows with these keys, and no others. -/
theorem deleteAll_removal (hm : m.Resolved) (hkeys : m.keys ≠ []) {entities : List Entity}
    (hentities : entities ≠ []) (htypes : ∀ e ∈ entities, e.type = m.type) (limit : ParameterLimit)
    {c : Connection} (hpresent : ∀ e ∈ entities, .null ∉ m.boundKey c.dialect e)
    (hfaults : c.driver.faults = []) (hanswers : ∀ answer ∈ c.driver.responses, Counted answer) :
    ∃ total c' calls, (m.deleteAll limit entities).perform c = (.ok total, c') ∧
      c'.driver.trace = c.driver.trace ++ calls ∧
      m.Removal c.dialect limit entities (c.dialect.handed "DELETE" calls) := by
  have hparts : 0 < m.keys.length := List.length_pos_iff.mpr hkeys
  have hvalues : entities.mapM (m.keyValues · deleteOperation) = .ok (entities.map m.keyTuple) :=
    mapM_eq_pure fun e he => keyValues_eq hm.coherent hkeys (not_mem_keyTuple (hpresent e he)) _
  obtain ⟨total, c', calls, hrun, htrace, hcalls⟩ := m.perform_deleteChunks
    (chunks (limit.capacity m.keys.length) (entities.map m.keyTuple)) 0 (.of_faults hfaults) hanswers
  refine ⟨total, c', calls, ?_, htrace, ?_⟩
  · simpa [deleteAll, Action.perform_bind, hentities, checkTypes_eq htypes, checkKeyed, hkeys,
      hvalues, inChunks, limit.rows_eq hparts] using hrun
  · have hbound : (entities.map m.keyTuple).map (List.map (·.bound c.dialect.bindingStyle)) =
        entities.map (m.boundKey c.dialect) := List.map_map ..
    have hremoval := m.removal_chunks hkeys c.dialect limit hpresent
    rw [← hbound, chunks_map, List.map_map] at hremoval
    rw [hcalls]
    simpa [Function.comp_def, List.map_flatten] using hremoval

/-- An integer that is a part of a key. -/
def lineKey (name : String) : Hint := .annotated (.type .int) [.key { name, auto := false }]

/-- A class with a key of two parts, and nothing else. -/
def lineClass : EntityClass :=
  { name := "Line", marker := some "line"
    lineage := [{ name := "Line", defaults := [], construction := none
                  fields := [("order", lineKey "order"), ("number", lineKey "number")] }] }

def lineMap : TableMap :=
  { type := lineClass, table := "line"
    keys := [("order", ⟨"order", "order", false⟩), ("number", ⟨"number", "number", false⟩)]
    columns := [("order", "order"), ("number", "number")]
    fields := [("order", lineKey "order"), ("number", lineKey "number")]
    details := [("order", { property := "order", name := "order", nullable := false }),
      ("number", { property := "number", name := "number", nullable := false })] }

theorem resolved_lineMap : lineMap.Resolved := ⟨[], lineClass, by simp [Catalog.Drafted], rfl⟩

/-- A line of an order. -/
def line (order number : Int) : Entity :=
  { type := lineClass, attributes := [("order", .int order), ("number", .int number)] }

/-- Two lines are taken by one statement, and not the ones that mix their keys. -/
theorem deleteAll_removal_lines : ∃ total c' calls,
    (lineMap.deleteAll ⟨4, by decide⟩ [line 1 2, line 2 1]).perform
      ({ dialect := .postgres } : Connection) = (.ok total, c') ∧
    c'.driver.trace = calls ∧
    lineMap.Removal .postgres ⟨4, by decide⟩ [line 1 2, line 2 1]
      (Dialect.postgres.handed "DELETE" calls) := by
  have hpresent : ∀ e ∈ [line 1 2, line 2 1], .null ∉ lineMap.boundKey .postgres e := by decide
  exact deleteAll_removal (c := { dialect := .postgres }) resolved_lineMap (by decide) (by simp)
    (by simp [line, lineMap]) ⟨4, by decide⟩ hpresent rfl (by simp)

end TableMap

end RelationalMapper
