import RelationalMapper.Proofs.Bulk.Chunk
import RelationalMapper.Proofs.Bulk.Insertion

/-! # How a bulk insertion is spread over statements

The entities reach the driver in runs of one size, in their order, each of them once. -/

namespace RelationalMapper

namespace TableMap

variable {m : TableMap}

/-! ## What the calls of one insertion hand over -/

/-- Asking for the last key inserts nothing. -/
theorem handed_lastKeyQuery :
    Dialect.sqlServer.handed "INSERT" [.execute Keys.lastKeyQuery none, .fetchOne] = [] := by
  have hreads : Sql.beginsWith "INSERT" Keys.lastKeyQuery = false := by decide +kernel
  simp [Dialect.handed, Call.handed, Dialect.received, Dialect.placeholder, hreads]

theorem dialect_of_asks {d : Dialect} {answer : Response} (h : m.asks d answer = true) :
    d = .sqlServer := by
  simp only [asks, Keys.asks, Bool.and_eq_true, decide_eq_true_eq] at h
  exact h.2.1

theorem handed_insertCall (m : TableMap) (d : Dialect) (entities : List Entity) :
    d.handed "INSERT" [m.insertCall d entities] =
      [(m.insertText d entities.length, m.boundRows d entities)] :=
  Dialect.handed_execute (d.beginsWith_renderInsertion _) _

/-- Behind an insertion nothing is inserted. -/
theorem handed_insertion (m : TableMap) {d : Dialect} (entities : List Entity) {rest : List Call}
    (h : d.handed "INSERT" rest = []) :
    d.handed "INSERT" (.openCursor :: m.insertCall d entities :: rest) =
      [(m.insertText d entities.length, m.boundRows d entities)] := by
  have hcalls : .openCursor :: m.insertCall d entities :: rest =
      [.openCursor] ++ ([m.insertCall d entities] ++ rest) := rfl
  rw [hcalls, Dialect.handed_append, Dialect.handed_append, h, handed_insertCall]
  rfl

theorem handed_insertionCalls (c : Connection) (entities : List Entity) :
    c.dialect.handed "INSERT"
        (m.insertionCalls c (m.insertCall c.dialect entities) ++ [.closeCursor]) =
      [(m.insertText c.dialect entities.length, m.boundRows c.dialect entities)] := by
  have hclosed : c.dialect.handed "INSERT" [.closeCursor] = [] := rfl
  unfold insertionCalls
  simp only [List.cons_append]
  apply m.handed_insertion
  rw [Dialect.handed_append, hclosed, List.append_nil]
  split
  · rw [Dialect.handed_append, Dialect.handed_fetchCalls, Dialect.handed_commitCalls]
    rfl
  · rw [Dialect.handed_append, Dialect.handed_commitCalls]
    split
    · rename_i hasks
      rw [dialect_of_asks hasks, handed_lastKeyQuery]
      rfl
    · rfl

/-! ## Serving insertions -/

/-- The answers serve this many insertions, one after the other: no call fails, and the keys that are
told enter the field of the automatic key. -/
def Served (m : TableMap) (d : Dialect) : Nat → List Response → Prop
  | 0, _ => True
  | n + 1, answers =>
    (∃ count keys, m.Answered d answers count keys ∧ ∀ key ∈ keys, m.Takes key) ∧
      m.Served d n (answers.drop (m.answersTaken d answers))

/-- What a run over chunks hands to the driver: one insertion for each chunk, with the values that
its entities had before the run. -/
theorem perform_insertChunks {κ : Type} [DecidableEq κ] (hm : m.Coherent)
    (cs : List (List κ)) {c : Connection} (store : EntityStore κ) (total : Int)
    (hcalm : c.driver.Calm) (hserved : m.Served c.dialect cs.length c.driver.responses) :
    ∃ total' c' store' calls,
      (cs.foldlM (fun total chunk => do return total + (← m.insertChunk chunk)) total :
        Action (Connection × EntityStore κ) Int).perform (c, store) =
          (.ok total', (c', store')) ∧
      c'.driver.trace = c.driver.trace ++ calls ∧
      c.dialect.handed "INSERT" calls = cs.map fun chunk =>
        (m.insertText c.dialect chunk.length, m.boundRows c.dialect (chunk.map store)) := by
  induction cs generalizing c store total with
  | nil => exact ⟨total, c, store, [], rfl, by simp, rfl⟩
  | cons chunk cs ih =>
      obtain ⟨⟨count, keys, hanswered, htakes⟩, hserved⟩ := hserved
      obtain ⟨keyed, hassign, hrows⟩ := perform_assignKeys hm chunk htakes store
      have hchunk := perform_insertChunk hm hcalm hanswered hassign
      obtain ⟨total', c', store', calls, hrun, htrace, hcalls⟩ := ih
        (c := c.after (m.insertionCalls c (m.insertCall c.dialect (chunk.map store))
          ++ [.closeCursor]) (m.answersTaken c.dialect c.driver.responses) 1)
        keyed (total + count) (hcalm.after _ _) hserved
      refine ⟨total', c', store', m.insertionCalls c (m.insertCall c.dialect (chunk.map store))
        ++ [.closeCursor] ++ calls, ?_, ?_, ?_⟩
      · simpa [List.foldlM_cons, Action.perform_bind, hchunk, Except.map] using hrun
      · rw [htrace, Connection.driver_after, Driver.trace_after, List.append_assoc]
      · have hkept : ∀ more : List κ, m.boundRows c.dialect (more.map keyed) =
            m.boundRows c.dialect (more.map store) := by
          intro more
          simp only [boundRows, List.flatMap_map, hrows]
        rw [Dialect.handed_append, handed_insertionCalls, List.length_map, List.map_cons]
        rw [Connection.dialect_after] at hcalls
        rw [hcalls]
        simp only [hkept, List.singleton_append]

/-- A bulk insertion that passes its checks sends its chunks. -/
theorem perform_insertAll_eq {κ : Type} [DecidableEq κ] {refs : List κ} (hrefs : refs ≠ [])
    {store : EntityStore κ} (hvalid : m.checkInsertion (refs.map store) = .ok ())
    (limit : ParameterLimit) (c : Connection) :
    (m.insertAll limit refs).perform (c, store) =
      (inChunks (limit.capacity m.insertProperties.length) refs m.insertChunk).perform
        (c, store) := by
  have hproperties : 0 < m.insertProperties.length := by
    obtain ⟨_, -, h⟩ := bind_eq_ok.mp hvalid
    obtain ⟨_, hinsertable, -⟩ := bind_eq_ok.mp h
    unfold checkInsertable at hinsertable
    split at hinsertable
    · contradiction
    · rename_i hne
      exact List.length_pos_iff.mpr hne
  simp [insertAll, Action.perform_bind, hrefs, hvalid, limit.rows_eq hproperties]

/-! ## The partition -/

/-- How insertions of at most `limit` parameters carry entities, in runs of the same length. -/
structure Partition (m : TableMap) (d : Dialect) (limit : ParameterLimit)
    (entities : List Entity) (sent : List (String × List Value)) : Prop where
  /-- As many statements as runs. -/
  number : sent.length =
    (entities.length + limit.capacity m.insertProperties.length - 1) /
      limit.capacity m.insertProperties.length
  /-- All parameters are the values of the entities, row by row and column by column. -/
  values : sent.flatMap (·.2) = entities.flatMap fun e =>
    m.insertProperties.names.map fun p => (e.get p).bound d.bindingStyle
  /-- Each statement has a group of values for each entity of its run, and binds just these. -/
  groups : ∀ i (h : i < sent.length),
    let rows := ((entities.drop (i * limit.capacity m.insertProperties.length)).take
      (limit.capacity m.insertProperties.length)).length
    Sql.valueGroups sent[i].1 = List.replicate rows m.insertProperties.length ∧
      (Sql.tokenize sent[i].1).countP (·.kind = .marker) = rows * m.insertProperties.length ∧
      sent[i].2.length = rows * m.insertProperties.length
  /-- The limit is passed only where one row passes it, and then by one row alone. -/
  limited : ∀ i (h : i < sent.length), limit.count < sent[i].2.length →
    limit.count < m.insertProperties.length ∧ Sql.valueGroups sent[i].1 =
      [m.insertProperties.length]
  /-- All runs but the last are full. -/
  full : ∀ i (h : i < sent.length), i + 1 < sent.length →
    (Sql.valueGroups sent[i].1).length = limit.capacity m.insertProperties.length

theorem length_boundRows (m : TableMap) (d : Dialect) (entities : List Entity) :
    (m.boundRows d entities).length = entities.length * m.insertProperties.length := by
  induction entities with
  | nil => simp [boundRows]
  | cons e entities ih =>
      have hrow : ((m.insertRow e).map (·.bound d.bindingStyle)).length =
          m.insertProperties.length := by simp [insertRow, Entries.names]
      rw [boundRows, List.flatMap_cons, List.length_append, hrow, ← boundRows, ih,
        List.length_cons, Nat.add_mul, Nat.one_mul, Nat.add_comm]

theorem valueGroups_insertText (m : TableMap) (d : Dialect) (rows : Nat) :
    Sql.valueGroups (m.insertText d rows) = List.replicate rows m.insertProperties.length := by
  rw [insertText, Dialect.valueGroups_renderInsertion]
  simp [Dialect.insertion, Entries.values]

theorem countP_marker_insertText (m : TableMap) (d : Dialect) (rows : Nat) :
    (Sql.tokenize (m.insertText d rows)).countP (·.kind = .marker) =
      rows * m.insertProperties.length := by
  rw [insertText, Dialect.countP_marker_renderInsertion]
  simp [Dialect.insertion, Entries.values]

theorem boundRows_flatten (m : TableMap) (d : Dialect) (runs : List (List Entity)) :
    m.boundRows d runs.flatten = runs.flatMap (m.boundRows d) := by
  induction runs with
  | nil => rfl
  | cons run runs ih =>
      rw [List.flatten_cons, List.flatMap_cons, ← ih]
      simp only [boundRows, List.flatMap_append]

/-- Insertions of the chunks are a partition. -/
theorem partition_chunks (m : TableMap) (d : Dialect) (limit : ParameterLimit)
    (entities : List Entity) :
    m.Partition d limit entities
      ((chunks (limit.capacity m.insertProperties.length) entities).map fun chunk =>
        (m.insertText d chunk.length, m.boundRows d chunk)) := by
  have hpos := limit.capacity_pos m.insertProperties.length
  refine ⟨?number, ?values, ?groups, ?limited, ?full⟩
  case number => rw [List.length_map, length_chunks hpos]
  case values =>
      rw [List.flatMap_map]
      simp only
      rw [← boundRows_flatten, flatten_chunks]
      simp [boundRows, insertRow, List.map_map, Function.comp_def]
  case groups =>
      intro i h
      rw [List.length_map] at h
      have hchunk := getElem_chunks hpos entities h
      simp only [List.getElem_map, hchunk]
      exact ⟨m.valueGroups_insertText d _, m.countP_marker_insertText d _,
        m.length_boundRows d _⟩
  case limited =>
      intro i h hover
      rw [List.length_map] at h
      have hrows := length_of_mem_chunks hpos (List.getElem_mem h)
      simp only [List.getElem_map, length_boundRows, valueGroups_insertText] at hover ⊢
      have hone : (chunks _ entities)[i].length = 1 := by
        by_cases hfits : (chunks (limit.capacity m.insertProperties.length) entities)[i].length ≤
            limit.count / m.insertProperties.length
        · have hwithin := Nat.mul_le_of_le_div _ _ _ hfits
          omega
        · have hle : (chunks (limit.capacity m.insertProperties.length) entities)[i].length ≤
              max 1 (limit.count / m.insertProperties.length) := hrows.2
          omega
      rw [hone, Nat.one_mul] at hover
      rw [hone]
      exact ⟨hover, rfl⟩
  case full =>
      intro i h hnext
      rw [List.length_map] at h hnext
      have hlength : (i + 1) * limit.capacity m.insertProperties.length < entities.length := by
        have hrun := length_of_mem_chunks hpos (List.getElem_mem hnext)
        rw [getElem_chunks hpos entities hnext, List.length_take, List.length_drop] at hrun
        omega
      simp only [List.getElem_map, valueGroups_insertText, List.length_replicate,
        getElem_chunks hpos entities h, List.length_take, List.length_drop]
      rw [Nat.add_mul] at hlength
      omega

/-- A bulk insertion that passes its checks is a partition of its entities, with the values that they
had when it began; the keys that earlier runs get do not matter. -/
theorem insertAll_partition {κ : Type} [DecidableEq κ] (hm : m.Resolved) {refs : List κ}
    (hrefs : refs ≠ []) {c : Connection} {store : EntityStore κ}
    (hvalid : m.checkInsertion (refs.map store) = .ok ()) (limit : ParameterLimit)
    (hfaults : c.driver.faults = [])
    (hserved : m.Served c.dialect
      ((refs.length + limit.capacity m.insertProperties.length - 1) /
        limit.capacity m.insertProperties.length) c.driver.responses) :
    ∃ total c' store' calls,
      (m.insertAll limit refs).perform (c, store) = (.ok total, (c', store')) ∧
      c'.driver.trace = c.driver.trace ++ calls ∧
      m.Partition c.dialect limit (refs.map store) (c.dialect.handed "INSERT" calls) := by
  have hpos := limit.capacity_pos m.insertProperties.length
  rw [← length_chunks hpos] at hserved
  obtain ⟨total, c', store', calls, hrun, htrace, hcalls⟩ :=
    perform_insertChunks hm.coherent _ store 0 (.of_faults hfaults) hserved
  refine ⟨total, c', store', calls, ?_, htrace, ?_⟩
  · rwa [perform_insertAll_eq hrefs hvalid]
  · have hpartition := m.partition_chunks c.dialect limit (refs.map store)
    rw [chunks_map, List.map_map] at hpartition
    rw [hcalls]
    simpa [Function.comp_def] using hpartition

/-- A class with an automatic key and a name. -/
def itemClass : EntityClass :=
  { name := "Item", marker := some "item"
    lineage := [{ name := "Item", defaults := [], construction := none
                  fields := [("id", .annotated (.type .int) [.key { name := "id" }]),
                    ("name", .annotated (.type .text) [.column { name := "name" }])] }] }

def itemMap : TableMap :=
  { type := itemClass, table := "item"
    keys := [("id", ⟨"id", "id", true⟩)]
    columns := [("id", "id"), ("name", "name")]
    fields := [("id", .annotated (.type .int) [.key { name := "id" }]),
      ("name", .annotated (.type .text) [.column { name := "name" }])]
    details := [("id", { property := "id", name := "id", nullable := false }),
      ("name", { property := "name", name := "name", length := 255 })] }

theorem resolved_itemMap : itemMap.Resolved := ⟨[], itemClass, by simp [Catalog.Drafted], rfl⟩

/-- Items by number, each named by its digit. -/
def itemStore : EntityStore Nat := fun n =>
  { type := itemClass, attributes := [("name", .text (toString n))] }

/-- Two parameters at most. -/
def pairLimit : ParameterLimit := ⟨2, by decide⟩

/-- Three items take two statements under that limit. -/
theorem insertAll_partition_items : ∃ total c' store' calls,
    (itemMap.insertAll pairLimit [0, 1, 2]).perform
      (({ dialect := .sqlite } : Connection), itemStore) = (.ok total, (c', store')) ∧
    c'.driver.trace = calls ∧
    itemMap.Partition .sqlite pairLimit ([0, 1, 2].map itemStore)
      (Dialect.sqlite.handed "INSERT" calls) := by
  have hanswered : itemMap.Answered .sqlite [] 1 [] := ⟨rfl, fun _ => rfl, rfl, fun _ => ⟨rfl, rfl⟩⟩
  have hserved : itemMap.Served .sqlite 2 [] :=
    ⟨⟨1, [], hanswered, by simp⟩, ⟨1, [], hanswered, by simp⟩, trivial⟩
  have hvalid : itemMap.checkInsertion ([0, 1, 2].map itemStore) = .ok () := rfl
  exact insertAll_partition (c := { dialect := .sqlite }) resolved_itemMap (by simp) hvalid
    pairLimit rfl hserved

end TableMap

end RelationalMapper
