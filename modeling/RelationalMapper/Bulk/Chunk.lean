/-!
Chunks: a list cut into runs of equal length, the last of which may be shorter. Main statement: the
chunks put together are the list.
-/

namespace RelationalMapper

/-- How many rows of `perRow` parameters a statement may bind, which is at least one. -/
def rowsPerChunk (maxParams perRow : Int) : Int := max 1 (maxParams.fdiv (max 1 perRow))

/-- Runs of `size` elements; a size of zero counts as one. -/
def chunks {α : Type} (size : Nat) (items : List α) : List (List α) :=
  match items with
  | [] => []
  | a :: rest => (a :: rest.take (size - 1)) :: chunks size (rest.drop (size - 1))
  termination_by items.length
  decreasing_by simp only [List.length_drop, List.length_cons]; omega

theorem flatten_chunks {α : Type} (size : Nat) (items : List α) :
    (chunks size items).flatten = items := by
  fun_induction chunks size items with
  | case1 => rfl
  | case2 a rest ih => simp [ih]

end RelationalMapper
