import RelationalMapper.Proofs.Bulk.KeyParameters
import RelationalMapper.Proofs.Query.Alignment
import RelationalMapper.Proofs.Query.Stated

/-! # Missing values in filters

A missing value is bound as null, whichever it is. A filter that compares a column with null itself is
written with IS NULL or IS NOT NULL; one that compares it with another missing value is not, so that it
compares with a null that is bound. -/

namespace RelationalMapper

open Sql

/-! ## What is asked of a column -/

/-- What a filter asks of a column, with its values as they were given. -/
inductive Demand where
  | compare (column : ColumnRef) (op : Comparison) (value : Value)
  | among (column : ColumnRef) (values : List Value)
  deriving DecidableEq, Inhabited

namespace Demand

/-- The test that is made of it. -/
def test : Demand → Test
  | compare column op value => .comparison column op value
  | among column values => .among column values

/-- What is bound for it. -/
def params : Demand → List Value
  | compare _ _ value => if value = .null then [] else [value]
  | among _ values => values

/-- What it asks for, where values that are bound as null are null. -/
def check (style : BindingStyle) : Demand → Check
  | compare column op value => .comparison column op (value.bound style)
  | among column values => .among column (values.map (·.bound style))

/-- It asks for what is equal or unequal to a value that is bound as null. -/
def OfMissing (style : BindingStyle) : Demand → Prop
  | compare _ op value => (op = .equal ∨ op = .notEqual) ∧ value.bound style = .null
  | among .. => False

/-- If something is to be equal or unequal to a missing value, that is null itself. -/
def Plain : Demand → Prop
  | compare _ op value => op = .equal ∨ op = .notEqual → value.isMissing = true → value = .null
  | among .. => True

instance (demand : Demand) : Decidable demand.Plain :=
  match demand with
  | compare _ op value =>
    inferInstanceAs (Decidable (op = .equal ∨ op = .notEqual → value.isMissing = true →
      value = .null))
  | among .. => inferInstanceAs (Decidable True)

end Demand

/-- The check compares for equality with null, so that no row passes. -/
def Sql.Check.EqualsNull : Check → Prop
  | .compare _ op (.value v) => (op = .equal ∨ op = .notEqual) ∧ v = .null
  | _ => False

/-- The tests of a condition, with its parameters in the places of its marks. -/
def Sql.testsOf? (text : String) (params : List Value) : Option (List Check) :=
  ((filled (words text) params).bind (pieces? [] false)).map Condition.tests

/-! ## Bound values -/

namespace Test

/-- The test with its values as they are bound. -/
def bound (style : BindingStyle) : Test → Test
  | compare column op value => .compare column op (value.bound style)
  | among column values => .among column (values.map (·.bound style))
  | t => t

theorem written_bound (style : BindingStyle) (t : Test) : (t.bound style).written = t.written := by
  cases t <;> simp [bound, written]

theorem params_bound (style : BindingStyle) (t : Test) :
    (t.bound style).params = t.params.map (·.bound style) := by
  cases t <;> rfl

/-- The values that are bound stand in the places of the marks. -/
theorem filled_bound (style : BindingStyle) (t : Test) :
    filled (t.written.flatMap Fragment.words) (t.params.map (·.bound style)) =
      some (t.bound style).terms := by
  have hbound := (t.bound style).filled_written
  rwa [written_bound, params_bound] at hbound

end Test

namespace Demand

variable {style : BindingStyle}

theorem params_test (demand : Demand) : demand.test.params = demand.params := by
  cases demand with
  | among column values => rfl
  | compare column op value =>
      by_cases hvalue : value = .null
      · cases op <;> simp [test, Test.comparison, params, Test.params, hvalue]
      · simp [test, Test.comparison, params, Test.params, hvalue]

/-- Null itself is written out, and any other value is bound. -/
theorem check_test_compare (style : BindingStyle) (column : ColumnRef) (op : Comparison)
    (value : Value) :
    ((compare column op value).test.bound style).check =
      if value = .null then Check.comparison column op .null
      else .compare column op (.value (value.bound style)) := by
  by_cases hvalue : value = .null
  · cases op <;> simp [test, Test.comparison, Test.bound, Test.check, Check.comparison, hvalue]
  · simp [test, Test.comparison, Test.bound, Test.check, hvalue]

/-- A demand is read as it was asked, unless it asks for a missing value that is not null itself. -/
theorem check_test_iff (style : BindingStyle) (demand : Demand) :
    (demand.test.bound style).check = demand.check style ↔ demand.Plain := by
  cases demand with
  | among column values => exact iff_of_true rfl trivial
  | compare column op value =>
      rw [check_test_compare, check, Plain]
      by_cases hvalue : value = .null
      · have hbound : value.bound style = .null := Value.bound_eq_null.mpr (by rw [hvalue]; rfl)
        rw [if_pos hvalue, hbound]
        exact iff_of_true rfl fun _ _ => hvalue
      · rw [if_neg hvalue, ← @Value.bound_eq_null style value]
        by_cases hbound : value.bound style = .null
        · rw [hbound]
          cases op <;> simp [Check.comparison, hvalue]
        · exact iff_of_true (by simp [Check.comparison, hbound]) fun _ h => absurd h hbound

theorem params_eq_nil_iff (style : BindingStyle) (demand : Demand) :
    (demand.OfMissing style → demand.params = []) ↔ demand.Plain := by
  cases demand with
  | among column values => exact iff_of_true (fun h => h.elim) trivial
  | compare column op value =>
      rw [OfMissing, Plain, params, Value.bound_eq_null, and_imp]
      by_cases hvalue : value = .null <;> simp [hvalue]

theorem equalsNull_iff (style : BindingStyle) (demand : Demand) :
    (demand.test.bound style).check.EqualsNull ↔ ¬demand.Plain := by
  cases demand with
  | among column values => exact iff_of_false id (not_not_intro trivial)
  | compare column op value =>
      rw [check_test_compare, Plain]
      by_cases hvalue : value = .null
      · rw [if_pos hvalue]
        refine iff_of_false ?_ (not_not_intro fun _ _ => hvalue)
        cases op <;> simp [Check.comparison, Check.EqualsNull]
      · rw [if_neg hvalue, ← @Value.bound_eq_null style value]
        simp [Check.EqualsNull, hvalue]

end Demand

/-! ## What is asked of a query -/

namespace Query

/-- What a filter asks of a column of the query. -/
def demand (q : Query) : FilterTest → Except Failure Demand
  | .compare property op value entity => (q.column entity property).map (.compare · op value)
  | .among property values entity => do
    let column ← q.column entity property
    return .among column (← values.elements)

theorem filterTest_eq (q : Query) (asked : FilterTest) :
    q.filterTest asked = (q.demand asked).map Demand.test := by
  cases asked with
  | compare property op value entity =>
      rw [filterTest, demand]
      cases q.column entity property <;> rfl
  | among property values entity =>
      rw [filterTest, demand]
      cases q.column entity property with
      | error e => rfl
      | ok column => cases values.elements <;> rfl

/-- What a filter asks for, up to a test that is refused. -/
def Request.demands (p : Session × Query) : Request → List Demand
  | .build (.filter calls) =>
    if p.2.executed then [] else Condition.tests (untilRefused (Piece.settled p.2.demand) calls)
  | _ => []

/-- What the filters of a query asked for. -/
def demands (steps : List Step) : List Demand :=
  steps.flatMap fun step => step.request.demands step.before

theorem Request.tests_asked (r : Request) (p : Session × Query) :
    Condition.tests (r.asked p) = (r.demands p).map Demand.test := by
  rcases r with call | _ | _
  · cases call with
    | filter calls =>
        rw [Request.asked, demands]
        split
        · rfl
        · have hsettled : Piece.settled p.2.filterTest =
              fun piece => (piece.settled p.2.demand).map (Piece.map Demand.test) := by
            funext piece
            rw [funext p.2.filterTest_eq, Piece.settled_map]
          rw [Query.asked, hsettled, untilRefused_map, Condition.tests_map]
    | _ => rfl
  · rfl
  · rfl

theorem History.tests_eq_demands {steps : List Step} {q : Query} (h : History steps q) :
    q.condition.tests = (demands steps).map Demand.test := by
  rw [h.tests_eq, demands, List.map_flatMap]
  exact List.flatMap_congr fun step _ => step.request.tests_asked step.before

/-! ## The condition of a query -/

theorem spaced_connected {τ : Type} {c : Condition τ} (hc : c.Spaced) :
    Condition.Spaced c.connected := by
  unfold Condition.connected
  split
  · exact spaced_concat hc rfl
  · exact hc

theorem Effect.spaced {p : Session × Query} {r : Request}
    {result : Except Failure (Option String)} {q : Query} (h : Effect p r result q)
    (hp : p.2.condition.Spaced) : q.condition.Spaced := by
  cases h with
  | filtered _ hc =>
      rcases hc with rfl | ⟨-, rfl⟩
      · exact spaced_foldl_extend hp _
      · exact spaced_connected (spaced_foldl_extend hp _)
  | _ => exact hp

/-- No two tests of a query stand side by side, whatever was refused. -/
theorem History.spaced {steps : List Step} {q : Query} (h : History steps q) :
    q.condition.Spaced := by
  induction h with
  | start hrun =>
      obtain ⟨d, base, rfl⟩ := eq_start_of_query hrun
      exact .nil
  | request _ r s ih => exact (r.effect s _).spaced ih

/-- The tests of a query are read with the values that are bound for them. -/
theorem testsOf?_conditionText {q : Query} (hq : q.condition.Spaced) (style : BindingStyle) :
    testsOf? q.conditionText (q.params.map (·.bound style)) =
      some (q.condition.tests.map fun t => (t.bound style).check) := by
  have hfilled := Condition.filled_written (Test.filled_bound style) q.condition
  have hparams : q.params.map (·.bound style) =
      q.condition.tests.flatMap fun t => t.params.map (·.bound style) := List.map_flatMap
  have hpieces := Condition.pieces?_terms (fun t => (t.bound style).testReads) hq
  rw [testsOf?, q.reads_condition.words_eq q.dialect.quotes_mem_all, conditionWords, hparams,
    hfilled, Option.bind_some, hpieces, Option.map_some, Condition.tests_map]

/-- The text is there with something in front of it and behind it. -/
def Around (part text : String) : Prop := ∃ lead trail, text = lead ++ part ++ trail

theorem Around.refl (part : String) : Around part part := ⟨"", "", by simp⟩

theorem Around.behind {part text : String} (h : Around part text) (lead : String) :
    Around part (lead ++ text) := by
  obtain ⟨before, after, rfl⟩ := h
  exact ⟨lead ++ before, after, by simp [String.append_assoc]⟩

theorem Around.before {part text : String} (h : Around part text) (trail : String) :
    Around part (text ++ trail) := by
  obtain ⟨before, after, rfl⟩ := h
  exact ⟨before, after ++ trail, by simp [String.append_assoc]⟩

theorem around_fromText (q : Query) : Around q.whereText q.fromText :=
  (Around.refl _).behind _

theorem around_selectText {q : Query} {sql : String} (h : q.selectText = .ok sql) :
    Around q.whereText sql := by
  obtain ⟨projection, -, h⟩ := bind_eq_ok.mp h
  have hbody : Around q.whereText ("SELECT " ++ projection ++ q.fromText
      ++ q.orderText?.elim "" (" ORDER BY " ++ ·)) := (q.around_fromText.behind _).before _
  rcases Dialect.paginate_cases h with rfl | ⟨page, -, rfl | ⟨terms, -, rfl⟩⟩
  · exact hbody
  · exact hbody.before _
  · exact hbody.before _

theorem around_countText {q : Query} {sql : String} (h : q.countText = .ok sql) :
    Around q.whereText sql := by
  unfold countText at h
  split at h
  · rw [← Except.ok.inj h]
    exact q.around_fromText.behind _
  · obtain ⟨inner, hinner, rfl⟩ := map_eq_ok.mp h
    exact (((around_selectText hinner).behind _).before _).before _

/-- The condition of a statement that writes is that of its query. -/
theorem around_conditionText (q : Query) (lead : String) :
    Around q.whereText (lead ++ " WHERE " ++ q.conditionText) := by
  unfold whereText
  split
  · exact ⟨_, "", by rw [String.append_empty, String.append_empty]⟩
  · exact ⟨lead, "", by simp [String.append_assoc]⟩

/-- Every statement of a query has its condition in it, with the parameters of the condition last. -/
theorem around_compile {q : Query} {form : Form} {st : Compiled} (h : q.compile form = .ok st) :
    Around q.whereText st.sql ∧ ∃ assigned, st.params = assigned ++ q.params := by
  cases form with
  | selection =>
      obtain ⟨sql, hsql, rfl⟩ := map_eq_ok.mp h
      exact ⟨around_selectText hsql, [], rfl⟩
  | count =>
      obtain ⟨sql, hsql, rfl⟩ := map_eq_ok.mp h
      exact ⟨around_countText hsql, [], rfl⟩
  | update assignments =>
      cases assignments with
      | none => contradiction
      | some given =>
          have hcompile : (Mutation.update (some given)).compile q = .ok st := h
          rw [Mutation.compile_update] at hcompile
          split at hcompile
          · contradiction
          · split at hcompile
            · contradiction
            · rw [← Except.ok.inj hcompile]
              exact ⟨q.around_conditionText _, _, rfl⟩
  | deletion =>
      obtain ⟨-, -, h⟩ := bind_eq_ok.mp h
      rw [← Except.ok.inj h]
      exact ⟨q.around_conditionText _, [], rfl⟩

/-- Whatever was asked of a query, and whatever was refused: its condition is read, with the parameters
that are bound, as one check for each demand. The check is the one that was asked for, and nothing is
bound for a missing value that something is to be equal or unequal to, just if the missing value is null
itself; otherwise the check compares with null, and no row passes. -/
theorem History.reads_missing {steps : List Step} {q : Query} (h : History steps q) :
    ∃ checks, testsOf? q.conditionText (q.params.map (·.bound q.dialect.bindingStyle)) = some checks ∧
      q.params = (demands steps).flatMap Demand.params ∧
      List.Forall₂ (fun demand check => (check = demand.check q.dialect.bindingStyle ∧
          (demand.OfMissing q.dialect.bindingStyle → demand.params = [])) ↔ demand.Plain)
        (demands steps) checks ∧
      ((∀ check ∈ checks, ¬check.EqualsNull) ↔ ∀ demand ∈ demands steps, demand.Plain) ∧
      ∀ form st, q.compile form = .ok st →
        Around q.whereText st.sql ∧ ∃ assigned, st.params = assigned ++ q.params := by
  have htests := h.tests_eq_demands
  refine ⟨_, testsOf?_conditionText h.spaced _, ?_, ?_, ?_, fun _ _ => around_compile⟩
  · rw [params, Condition.params, htests, List.flatMap_map]
    exact List.flatMap_congr fun demand _ => demand.params_test
  · rw [htests, List.map_map, List.forall₂_map_right_iff, List.forall₂_same]
    intro demand _
    rw [Function.comp_apply, demand.check_test_iff, demand.params_eq_nil_iff, and_self]
  · simp only [htests, List.map_map, List.forall_mem_map, Function.comp_apply,
      Demand.equalsNull_iff, not_not]

/-- Items with a number, whose name is not null and lies below what is not a number. -/
def numberedItems : List Request :=
  [.build (.filter [.test (.compare "id" .notEqual .null none),
    .test (.compare "name" .less (.scalar (.float .nan)) none)])]

theorem reads_missing_items :
    ∃ checks, testsOf? (itemsAfter numberedItems).conditionText
        ((itemsAfter numberedItems).params.map (·.bound .storageClasses)) = some checks ∧
      ∀ check ∈ checks, ¬check.EqualsNull := by
  have hdialect : (itemsAfter numberedItems).dialect.bindingStyle = .storageClasses := by decide +kernel
  obtain ⟨checks, hchecks, -, -, hplain, -⟩ := (history_itemsAfter numberedItems).reads_missing
  rw [hdialect] at hchecks
  exact ⟨checks, hchecks, hplain.mpr (by decide +kernel)⟩

/-- Items whose number is equal to what is not a number. -/
def unnumberedItems : List Request :=
  [.build (.filter [.test (.compare "id" .equal (.scalar (.float .nan)) none)])]

/-- What is not a number is not found missing: it is compared, and null is bound for it. -/
theorem compares_bound_null :
    ∃ st, (itemsAfter unnumberedItems).compile .selection = .ok st ∧
      st.sql = "SELECT * FROM \"item\" WHERE \"id\" = ?" ∧
      st.params.map (·.bound .storageClasses) = [.null] :=
  ⟨_, rfl, by decide +kernel, by decide +kernel⟩

end Query

end RelationalMapper
