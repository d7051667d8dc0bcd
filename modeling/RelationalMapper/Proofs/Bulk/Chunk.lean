import RelationalMapper.Bulk.Limit
import RelationalMapper.Proofs.Channel.Outcome
import RelationalMapper.Proofs.Dialect.Written
import RelationalMapper.Proofs.Sql.Format

/-! # Chunks, and what a driver is handed

Chunks are consecutive runs of one size. What the calls of a run hand to a driver is read from its
texts, as the driver takes them. -/

namespace RelationalMapper

/-! ## Chunks -/

section Chunks

variable {α : Type} {k : Nat}

theorem chunks_cons (hk : 0 < k) (x : α) (items : List α) :
    chunks k (x :: items) = (x :: items).take k :: chunks k ((x :: items).drop k) := by
  obtain ⟨n, rfl⟩ : ∃ n, k = n + 1 := ⟨k - 1, by omega⟩
  rw [chunks]
  simp

theorem length_chunks (hk : 0 < k) (items : List α) :
    (chunks k items).length = (items.length + k - 1) / k := by
  fun_induction chunks k items with
  | case1 => simp [Nat.div_eq_of_lt (show k - 1 < k by omega)]
  | case2 x rest ih =>
      have hsum : (x :: rest).length + k - 1 = rest.length + k := by simp
      rw [List.length_cons, ih, hsum, Nat.add_div_right _ hk, List.length_drop]
      rcases Nat.lt_or_ge rest.length k with hlt | hge
      · rw [Nat.div_eq_of_lt hlt, Nat.div_eq_of_lt (by omega)]
      · congr 2
        omega

/-- The chunk with index `i` holds what stands behind `i` times the size. -/
theorem getElem_chunks (hk : 0 < k) (items : List α) {i : Nat} (h : i < (chunks k items).length) :
    (chunks k items)[i] = (items.drop (i * k)).take k := by
  induction i generalizing items with
  | zero =>
      cases items with
      | nil => simp [chunks] at h
      | cons x rest => simp [chunks_cons hk]
  | succ i ih =>
      cases items with
      | nil => simp [chunks] at h
      | cons x rest =>
          simp only [chunks_cons hk, List.length_cons] at h
          simp only [chunks_cons hk, List.getElem_cons_succ]
          rw [ih _ (by omega), List.drop_drop]
          congr 2
          rw [Nat.add_mul, Nat.one_mul, Nat.add_comm]

theorem chunks_map {β : Type} (f : α → β) (items : List α) :
    chunks k (items.map f) = (chunks k items).map (List.map f) := by
  fun_induction chunks k items with
  | case1 => simp [chunks]
  | case2 x rest ih =>
      rw [List.map_cons, chunks, ← List.map_drop, ih]
      simp

theorem length_of_mem_chunks (hk : 0 < k) {items chunk : List α} (h : chunk ∈ chunks k items) :
    0 < chunk.length ∧ chunk.length ≤ k := by
  fun_induction chunks k items with
  | case1 => simp at h
  | case2 x rest ih =>
      rcases List.mem_cons.mp h with rfl | h
      · simp
        omega
      · exact ih h

end Chunks

/-- The larger of one and the number of rows that fit under a limit. -/
def ParameterLimit.capacity (limit : ParameterLimit) (perRow : Nat) : Nat :=
  max 1 (limit.count / perRow)

theorem ParameterLimit.capacity_pos (limit : ParameterLimit) (perRow : Nat) :
    0 < limit.capacity perRow := by
  rw [capacity]
  omega

theorem ParameterLimit.rows_eq (limit : ParameterLimit) {perRow : Nat} (h : 0 < perRow) :
    limit.rows perRow = limit.capacity perRow := by
  have hmax : max 1 (perRow : Int) = perRow := by omega
  rw [rows, rowsPerChunk, hmax, Int.fdiv_eq_ediv_of_nonneg _ (by omega), capacity]
  omega

/-! ## What a driver is handed -/

/-- The texts that a call hands over, with the parameters of each. -/
def Call.handed : Call → List (String × List Value)
  | .execute text params => [(text, params.getD [])]
  | .executeMany text batch => batch.map (text, ·)
  | _ => []

/-- The statements with this first word, as a driver of the dialect receives them. -/
def Dialect.handed (d : Dialect) (keyword : String) (calls : List Call) :
    List (String × List Value) :=
  (calls.flatMap Call.handed).filterMap fun (text, params) =>
    ((d.received text).filter (Sql.beginsWith keyword)).map (·, params)

namespace Dialect

variable {d : Dialect} {keyword : String}

theorem handed_append (first second : List Call) :
    d.handed keyword (first ++ second) = d.handed keyword first ++ d.handed keyword second := by
  simp [handed]

/-- A statement reaches the driver as it was written. -/
theorem handed_execute {sql : String} (h : Sql.beginsWith keyword sql = true)
    (params : List Value) :
    d.handed keyword [.execute (d.standardize sql) (some params)] = [(sql, params)] := by
  simp [handed, Call.handed, received_standardize, h]

theorem handed_commitCalls (c : Connection) : d.handed keyword c.commitCalls = [] := by
  unfold Connection.commitCalls
  split <;> rfl

theorem handed_fetchCalls (answer : Response) :
    d.handed keyword (Channel.fetchCalls answer) = [] := by
  unfold Channel.fetchCalls
  split <;> rfl

end Dialect

end RelationalMapper
