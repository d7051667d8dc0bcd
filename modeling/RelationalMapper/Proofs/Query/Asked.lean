import RelationalMapper.Proofs.Query.Guard
import RelationalMapper.Proofs.Query.Words

/-! # What a condition was asked

A filter or the condition of a join is stated piece by piece. Which columns the pieces ask for is
settled by the tables of the query when they are stated; after that the condition only grows. -/

namespace RelationalMapper

open RelationalMapper.Action

/-! ## Pieces -/

/-- The results up to the first failure. -/
def untilRefused {α β : Type} (f : α → Except Failure β) : List α → List β
  | [] => []
  | x :: xs =>
    match f x with
    | .ok y => y :: untilRefused f xs
    | .error _ => []

theorem untilRefused_of_mapM_ok {α β : Type} {f : α → Except Failure β} {xs : List α}
    {ys : List β} (h : xs.mapM f = .ok ys) : untilRefused f xs = ys := by
  induction xs generalizing ys with
  | nil =>
      rw [List.mapM_nil] at h
      exact Except.ok.inj h
  | cons x xs ih =>
      rw [List.mapM_cons] at h
      obtain ⟨y, hy, h⟩ := bind_eq_ok.mp h
      obtain ⟨rest, hrest, h⟩ := bind_eq_ok.mp h
      rw [untilRefused, hy, ← Except.ok.inj h]
      exact congrArg (y :: ·) (ih hrest)

theorem mem_untilRefused {α β : Type} {f : α → Except Failure β} {xs : List α} {y : β}
    (h : y ∈ untilRefused f xs) : ∃ x ∈ xs, f x = .ok y := by
  induction xs with
  | nil => contradiction
  | cons x xs ih =>
      rw [untilRefused] at h
      split at h
      · rename_i y' hy'
        rcases List.mem_cons.mp h with rfl | h
        · exact ⟨x, List.mem_cons_self, hy'⟩
        · obtain ⟨x', hx', hy⟩ := ih h
          exact ⟨x', List.mem_cons_of_mem x hx', hy⟩
      · contradiction

/-- The piece with its test settled. -/
def Piece.settled {τ υ : Type} (settle : τ → Except Failure υ) : Piece τ → Except Failure (Piece υ)
  | test t => (settle t).map test
  | and => .ok and
  | or => .ok or
  | opening => .ok opening
  | closing => .ok closing

theorem Piece.settled_eq_test {τ υ : Type} {settle : τ → Except Failure υ} {piece : Piece τ} {u : υ}
    (h : piece.settled settle = .ok (.test u)) : ∃ t, piece = .test t ∧ settle t = .ok u := by
  cases piece with
  | test t =>
      obtain ⟨u', hu', heq⟩ := map_eq_ok.mp h
      exact ⟨t, rfl, by rw [hu', Piece.test.inj heq]⟩
  | _ => cases h

namespace Condition

variable {τ : Type}

/-- The condition with one more piece, in front of which AND stands if it is a test that needs it. -/
def extend (c : Condition τ) : Piece τ → Condition τ
  | .test t => c.addTest t
  | piece => c ++ [piece]

theorem tests_extend (c : Condition τ) (piece : Piece τ) :
    (c.extend piece).tests = c.tests ++ piece.test?.toList := by
  cases piece with
  | test t => exact tests_addTest c t
  | _ => exact tests_append c _

theorem tests_foldl_extend (c : Condition τ) (pieces : List (Piece τ)) :
    (pieces.foldl extend c).tests = c.tests ++ tests pieces := by
  induction pieces generalizing c with
  | nil => exact (List.append_nil _).symm
  | cons piece pieces ih =>
      rw [List.foldl_cons, ih, tests_extend, List.append_assoc]
      cases piece <;> rfl

theorem mem_tests_iff {c : Condition τ} {t : τ} : t ∈ c.tests ↔ .test t ∈ c := by
  refine ⟨fun h => ?_, fun h => List.mem_filterMap.mpr ⟨_, h, rfl⟩⟩
  obtain ⟨before, after, rfl⟩ := mem_tests h
  exact List.mem_append_right _ List.mem_cons_self

/-- A settled test comes of one that was asked for. -/
theorem exists_of_mem_tests {υ : Type} {settle : τ → Except Failure υ} {calls : List (Piece τ)}
    {u : υ} (h : u ∈ tests (untilRefused (Piece.settled settle) calls)) :
    ∃ t, settle t = .ok u := by
  obtain ⟨piece, -, hpiece⟩ := mem_untilRefused (mem_tests_iff.mp h)
  obtain ⟨t, -, ht⟩ := Piece.settled_eq_test hpiece
  exact ⟨t, ht⟩

end Condition

namespace Query

/-! ## Filters -/

/-- The test that a query makes of what is asked. -/
def filterTest (q : Query) : FilterTest → Except Failure Test
  | .compare property op value entity =>
    (q.column entity property).map (.comparison · op value)
  | .among property values entity => do
    let column ← q.column entity property
    return .among column (← values.elements)

/-- The pieces that a filter adds, up to a test that is refused. -/
def asked (q : Query) (steps : List (Piece FilterTest)) : List (Piece Test) :=
  untilRefused (Piece.settled q.filterTest) steps

/-- A test is made of a column of the query. -/
theorem column_of_filterTest {q : Query} {asked : FilterTest} {t : Test}
    (h : q.filterTest asked = .ok t) :
    ∃ entity property, q.column entity property = .ok t.column := by
  cases asked with
  | compare property op value entity =>
      obtain ⟨column, hcolumn, rfl⟩ := map_eq_ok.mp h
      exact ⟨entity, property, by rw [hcolumn, Test.column_comparison]⟩
  | among property values entity =>
      obtain ⟨column, hcolumn, h⟩ := bind_eq_ok.mp h
      obtain ⟨items, -, h⟩ := bind_eq_ok.mp h
      exact ⟨entity, property, by rw [hcolumn, ← Except.ok.inj h]; rfl⟩

/-- A filter step extends the condition, or is refused. A list that is none is found out behind the AND
in front of its test. -/
theorem filterStep_cases (piece : Piece FilterTest) (q : Query) :
    (∃ settled n, piece.settled q.filterTest = .ok settled ∧ (filterStep piece).perform q =
      (.ok (), { q with tests := n, condition := q.condition.extend settled })) ∨
    ∃ e n c, piece.settled q.filterTest = .error e ∧
      (filterStep piece).perform q = (.error e, { q with tests := n, condition := c }) ∧
      (c = q.condition ∨ e = unlistable ∧ c = q.condition.connected) := by
  cases piece with
  | test t =>
      cases t with
      | compare property op value entity =>
          rw [filterStep, perform_compare]
          cases hcolumn : q.column entity property with
          | ok column =>
              exact .inl ⟨.test (.comparison column op value), q.tests + 1,
                by simp [Piece.settled, filterTest, hcolumn, Except.map], rfl⟩
          | error e =>
              exact .inr ⟨e, q.tests, q.condition,
                by simp [Piece.settled, filterTest, hcolumn, Except.map], rfl, .inl rfl⟩
      | among property values entity =>
          rw [filterStep, perform_among]
          cases hcolumn : q.column entity property with
          | ok column =>
              cases hitems : values.elements with
              | ok items =>
                  exact .inl ⟨.test (.among column items), q.tests + 1,
                    by simp [Piece.settled, filterTest, hcolumn, hitems, Except.map, bind,
                      Except.bind, pure, Except.pure], rfl⟩
              | error e =>
                  exact .inr ⟨e, _, _,
                    by simp [Piece.settled, filterTest, hcolumn, hitems, Except.map, bind,
                      Except.bind], rfl, .inr ⟨Value.eq_unlistable hitems, rfl⟩⟩
          | error e =>
              exact .inr ⟨e, q.tests, q.condition,
                by simp [Piece.settled, filterTest, hcolumn, Except.map, bind, Except.bind], rfl,
                .inl rfl⟩
  | _ => exact .inl ⟨_, q.tests, rfl, rfl⟩

/-- A filter changes nothing but the condition, by the pieces that it adds. -/
theorem filterSteps_cases {steps : List (Piece FilterTest)} {q q' : Query}
    {r : Except Failure Unit} (hrun : (steps.forM filterStep).perform q = (r, q')) :
    ∃ n c, q' = { q with tests := n, condition := c } ∧
      (c = (q.asked steps).foldl Condition.extend q.condition ∨ r = .error unlistable ∧
        c = Condition.connected ((q.asked steps).foldl Condition.extend q.condition)) := by
  induction steps generalizing q with
  | nil =>
      obtain ⟨-, rfl⟩ := Prod.mk.inj hrun
      exact ⟨q.tests, q.condition, rfl, .inl rfl⟩
  | cons piece steps ih =>
      change (filterStep piece >>= fun _ => steps.forM filterStep).perform q = _ at hrun
      rcases filterStep_cases piece q with
        ⟨settled, n, hsettled, hstep⟩ | ⟨e, n, c, hsettled, hstep, hc⟩
      · rw [perform_bind_ok hstep] at hrun
        obtain ⟨n', c, rfl, hc⟩ := ih hrun
        have hasked : q.asked (piece :: steps) = settled :: q.asked steps := by
          rw [asked, untilRefused, hsettled]
          rfl
        rw [hasked]
        exact ⟨n', c, rfl, hc⟩
      · rw [perform_bind_error hstep] at hrun
        obtain ⟨rfl, rfl⟩ := Prod.mk.inj hrun
        have hasked : q.asked (piece :: steps) = [] := by
          rw [asked, untilRefused, hsettled]
        rw [hasked]
        exact ⟨n, c, rfl, hc.imp id fun ⟨he, hc⟩ => ⟨congrArg _ he, hc⟩⟩

/-! ## Conditions of joins -/

/-- The comparison that a query makes of what is asked of a joined table. -/
def joinTest (q : Query) (joined : Source) (t : JoinTest) : Except Failure ColumnTest :=
  (q.column t.entity t.left).map fun column => ⟨column, t.op, joined.column t.right⟩

theorem onStep_eq (q : Query) (joined : Source) (c : Condition ColumnTest) (piece : Piece JoinTest) :
    q.onStep joined c piece = (piece.settled (q.joinTest joined)).map c.extend := by
  cases piece with
  | test t =>
      rw [onStep, Piece.settled, joinTest]
      cases q.column t.entity t.left <;> rfl
  | _ => rfl

/-- The condition of a join is made of its pieces, unless one is refused. -/
theorem foldlM_onStep (q : Query) (joined : Source) (steps : List (Piece JoinTest))
    (c : Condition ColumnTest) :
    steps.foldlM (q.onStep joined) c =
      (steps.mapM (Piece.settled (q.joinTest joined))).map (·.foldl Condition.extend c) := by
  induction steps generalizing c with
  | nil => rfl
  | cons piece steps ih =>
      rw [List.foldlM_cons, onStep_eq, List.mapM_cons]
      cases piece.settled (q.joinTest joined) with
      | error e => rfl
      | ok settled =>
          refine (ih (c.extend settled)).trans ?_
          cases hrest : steps.mapM (Piece.settled (q.joinTest joined)) <;>
            simp [bind, Except.bind, Except.map, pure, Except.pure]

theorem spaced_foldl_extend {τ : Type} {c : Condition τ} (hc : c.Spaced)
    (pieces : List (Piece τ)) : Condition.Spaced (pieces.foldl Condition.extend c) := by
  induction pieces generalizing c with
  | nil => exact hc
  | cons piece pieces ih =>
      refine ih ?_
      cases piece with
      | test t => exact spaced_addTest hc t
      | _ => exact spaced_concat hc rfl

end Query

end RelationalMapper
