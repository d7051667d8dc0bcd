import RelationalMapper.Proofs.Query.Coverage
import RelationalMapper.Proofs.Query.History
import RelationalMapper.Proofs.Query.Pieces
import RelationalMapper.Proofs.Query.Script

/-! # Conditions are read as they were stated

The condition of a query, and of each of its joins, is put together from calls. Read by the grammar of
conditions it is the formula that the calls state, with AND where no connective was given, and its tests
are the ones that were asked for. -/

namespace RelationalMapper

open Sql

/-! ## What is asked for, as it is to be read -/

/-- A comparison with null asks for null itself, or is one that no row passes. -/
def Sql.Check.comparison (column : ColumnRef) (op : Comparison) (value : Value) : Check :=
  if value = .null then
    match op with
    | .equal => .isNull column
    | .notEqual => .isNotNull column
    | _ => .compare column op (.value .null)
  else .compare column op (.value value)

/-- What the marks of a test stand for; null is written out. -/
def Sql.Check.params : Check → List Value
  | .compare _ _ (.value v) => if v = .null then [] else [v]
  | .among _ values => values
  | _ => []

/-- The text with its parameters is read as the formula that the pieces derive. -/
structure Sql.ReadAs (text : String) (params : List Value) (pieces : List (Piece Check)) :
    Prop where
  params_eq : params = (Condition.tests pieces).flatMap Check.params
  derives : ∃ terms f, filled (words text) params = some terms ∧ formula? terms = some f ∧
    Derives .alternatives pieces f ∧ f.checks = Condition.tests pieces

namespace Query

/-- The check that a filter asks for. -/
def filterCheck (q : Query) : FilterTest → Except Failure Check
  | .compare property op value entity => (q.column entity property).map (.comparison · op value)
  | .among property values entity => do
    let column ← q.column entity property
    return .among column (← values.elements)

/-- The check that the condition of a join asks for. -/
def joinCheck (q : Query) (joined : Source) (t : JoinTest) : Except Failure Check :=
  (q.column t.entity t.left).map fun column =>
    .compare column t.op (.column (joined.column t.right))

/-- What a filter states, up to a test that is refused. -/
def Request.checks (p : Session × Query) : Request → List (Piece Check)
  | .build (.filter calls) =>
    if p.2.executed then [] else untilRefused (Piece.settled p.2.filterCheck) calls
  | _ => []

/-- What the condition of a join states, if no test of it is refused. -/
def Request.joinChecks? (p : Session × Query) : Request → Option (List (Piece Check))
  | .build (.join kind type aliasName calls) => do
    let joined ← Query.opened? p (.join kind type aliasName calls)
    (calls.mapM (Piece.settled ((p.2.withSource joined).joinCheck joined))).toOption
  | _ => none

end Query

/-! ## Tests and checks -/

section Checks

variable {τ υ : Type}

theorem Piece.settled_map {σ : Type} {f : σ → Except Failure τ} {g : τ → υ} (piece : Piece σ) :
    piece.settled (fun t => (f t).map g) = (piece.settled f).map (Piece.map g) := by
  cases piece with
  | test t => rw [settled, settled]; cases f t <;> rfl
  | _ => rfl

theorem untilRefused_map {α β γ : Type} {f : α → Except Failure β} {g : β → γ} (xs : List α) :
    untilRefused (fun x => (f x).map g) xs = (untilRefused f xs).map g := by
  induction xs with
  | nil => rfl
  | cons x xs ih =>
      rw [untilRefused, untilRefused, ih]
      cases f x <;> rfl

theorem mapM_map {α β γ : Type} {f : α → Except Failure β} {g : β → γ} (xs : List α) :
    xs.mapM (fun x => (f x).map g) = (xs.mapM f).map (List.map g) := by
  induction xs with
  | nil => rfl
  | cons x xs ih =>
      rw [List.mapM_cons, List.mapM_cons, ih]
      cases f x with
      | error e => rfl
      | ok y => cases xs.mapM f <;> rfl

theorem Condition.needsAnd_map (f : τ → υ) (c : Condition τ) :
    Condition.needsAnd (c.map (Piece.map f)) = c.needsAnd := by
  rw [needsAnd, needsAnd, List.getLast?_map]
  cases c.getLast? with
  | none => rfl
  | some piece => cases piece <;> rfl

theorem Condition.extend_map (f : τ → υ) (c : Condition τ) (piece : Piece τ) :
    (c.extend piece).map (Piece.map f) =
      Condition.extend (c.map (Piece.map f)) (piece.map f) := by
  cases piece with
  | test t =>
      change List.map _ (c.addTest t) = addTest (c.map _) (f t)
      rw [addTest, addTest, connected, connected, needsAnd_map, List.map_append]
      split
      · rw [List.map_append]
        rfl
      · rfl
  | _ => exact List.map_append

/-- The condition is put together in the same way, whatever its tests are taken for. -/
theorem Condition.foldl_extend_map (f : τ → υ) (c : Condition τ) (pieces : List (Piece τ)) :
    (pieces.foldl Condition.extend c).map (Piece.map f) =
      (pieces.map (Piece.map f)).foldl Condition.extend (c.map (Piece.map f)) := by
  induction pieces generalizing c with
  | nil => rfl
  | cons piece pieces ih =>
      rw [List.foldl_cons, List.map_cons, List.foldl_cons, ← extend_map]
      exact ih (c.extend piece)

theorem Condition.tests_map (f : τ → υ) (c : Condition τ) :
    tests (c.map (Piece.map f)) = c.tests.map f := by
  induction c with
  | nil => rfl
  | cons piece c ih =>
      cases piece with
      | test t => exact congrArg (f t :: ·) ih
      | _ => exact ih

end Checks

theorem Test.check_comparison (column : ColumnRef) (op : Comparison) (value : Value) :
    (Test.comparison column op value).check = Check.comparison column op value := by
  unfold Test.comparison Check.comparison
  split
  · cases op <;> rfl
  · rfl

namespace Query

theorem filterCheck_eq (q : Query) (asked : FilterTest) :
    q.filterCheck asked = (q.filterTest asked).map Test.check := by
  cases asked with
  | compare property op value entity =>
      rw [filterCheck, filterTest]
      cases q.column entity property with
      | error e => rfl
      | ok column => exact congrArg Except.ok (Test.check_comparison column op value).symm
  | among property values entity =>
      rw [filterCheck, filterTest]
      cases q.column entity property with
      | error e => rfl
      | ok column => cases values.elements <;> rfl

theorem params_of_filterTest {q : Query} {asked : FilterTest} {t : Test}
    (h : q.filterTest asked = .ok t) : t.params = t.check.params := by
  cases asked with
  | compare property op value entity =>
      obtain ⟨column, -, rfl⟩ := map_eq_ok.mp h
      unfold Test.comparison
      split
      · cases op <;> rfl
      · rename_i hvalue
        simp [Test.params, Test.check, Check.params, hvalue]
  | among property values entity =>
      obtain ⟨column, -, h⟩ := bind_eq_ok.mp h
      obtain ⟨items, -, h⟩ := bind_eq_ok.mp h
      rw [← Except.ok.inj h]
      rfl

theorem joinCheck_eq (q : Query) (joined : Source) (t : JoinTest) :
    q.joinCheck joined t = (q.joinTest joined t).map ColumnTest.check := by
  rw [joinCheck, joinTest]
  cases q.column t.entity t.left <;> rfl

theorem Request.checks_eq (r : Request) (p : Session × Query) :
    r.checks p = (r.asked p).map (Piece.map Test.check) := by
  rcases r with call | _ | _
  · cases call with
    | filter calls =>
        rw [checks, asked]
        split
        · rfl
        · have hsettled : Piece.settled p.2.filterCheck =
              fun piece => (piece.settled p.2.filterTest).map (Piece.map Test.check) := by
            funext piece
            rw [funext p.2.filterCheck_eq, Piece.settled_map]
          rw [hsettled, untilRefused_map]
          rfl
    | _ => rfl
  · rfl
  · rfl

theorem Request.joinChecks?_eq (r : Request) (p : Session × Query) :
    r.joinChecks? p = (r.joins? p).map (List.map (Piece.map ColumnTest.check)) := by
  rcases r with call | _ | _
  · cases call with
    | join kind type aliasName calls =>
        rw [joinChecks?, joins?]
        cases Query.opened? p (.join kind type aliasName calls) with
        | none => rfl
        | some joined =>
            have hsettled : Piece.settled ((p.2.withSource joined).joinCheck joined) =
                fun piece => (piece.settled ((p.2.withSource joined).joinTest joined)).map
                  (Piece.map ColumnTest.check) := by
              funext piece
              rw [funext ((p.2.withSource joined).joinCheck_eq joined), Piece.settled_map]
            simp only [hsettled, mapM_map, Option.bind_eq_bind, Option.bind_some]
            cases calls.mapM (Piece.settled ((p.2.withSource joined).joinTest joined)) <;> rfl
    | _ => rfl
  · rfl
  · rfl

end Query

/-! ## Conditions -/

/-- A condition that is put together from calls is read as the calls state it. -/
theorem Condition.readAs {τ : Type} {write : τ → Written} {own : τ → List Value}
    {read : τ → List Term} {check : τ → Check}
    (hfilled : ∀ t, filled ((write t).flatMap Fragment.words) (own t) = some (read t))
    (hreads : ∀ t, TestReads (read t) (check t)) {asked : List (Piece τ)} {d : Dialect}
    {text : String}
    (htext : Reads d.quotes text
      ((written write (asked.foldl extend [])).flatMap Fragment.words))
    (hparams : ∀ t ∈ tests asked, own t = (check t).params) {pieces : List (Piece Check)}
    (h : Completes .sequence (asked.map (Piece.map check)) pieces) :
    ReadAs text ((tests asked).flatMap own) pieces := by
  have hpieces : (asked.foldl extend []).map (Piece.map check) = pieces := by
    rw [foldl_extend_map]
    exact (h.foldl_extend (c := []) rfl).trans (List.nil_append _)
  have hown : (tests asked).flatMap own = (tests pieces).flatMap Check.params := by
    rw [← hpieces, tests_map, tests_foldl_extend, List.flatMap_map]
    exact List.flatMap_congr hparams
  obtain ⟨f, hf⟩ : ∃ f, Derives .alternatives pieces f := h.exists_derives
  refine ⟨hown, (asked.foldl extend []).flatMap (Piece.terms read), f, ?_, ?_, hf,
    hf.checks_eq⟩
  · have hall := filled_written hfilled (asked.foldl extend [])
    rw [tests_foldl_extend] at hall
    rw [htext.words_eq d.quotes_mem_all]
    exact hall
  · rw [formula?, pieces?_terms hreads (Query.spaced_foldl_extend .nil asked), hpieces]
    exact ofPieces?_iff.mpr hf

/-! ## Histories -/

namespace Query

theorem Request.params_of_asked {r : Request} {p : Session × Query} {t : Test}
    (ht : t ∈ Condition.tests (r.asked p)) : t.params = t.check.params := by
  rcases r with call | _ | _
  · cases call with
    | filter calls =>
        rw [asked] at ht
        split at ht
        · contradiction
        · obtain ⟨asked, hasked⟩ := Condition.exists_of_mem_tests ht
          exact params_of_filterTest hasked
    | _ => contradiction
  · contradiction
  · contradiction

/-- The condition of a query is read as its filters state it, and those of its joins as the calls that
made them. -/
theorem History.reads_calls {steps : List Step} {q : Query} (h : History steps q)
    (hlisted : ∀ step ∈ steps, step.request.filters = true → step.result ≠ .error unlistable) :
    (∀ pieces, Completes .sequence (steps.flatMap fun step => step.request.checks step.before)
      pieces → ReadAs q.conditionText q.params pieces) ∧
    List.Forall₂ (fun calls j => ∀ pieces, Completes .sequence calls pieces →
        ReadAs (j.condition.text (ColumnTest.text q.dialect)) [] pieces)
      (steps.filterMap fun step => step.request.joinChecks? step.before) q.joins := by
  constructor
  · intro pieces hpieces
    have hcondition := h.condition_eq hlisted
    have hparams : q.params = (Condition.tests
        (steps.flatMap fun step => step.request.asked step.before)).flatMap Test.params := by
      rw [params, Condition.params, hcondition, Condition.tests_foldl_extend]
      rfl
    have hchecks : (steps.flatMap fun step => step.request.checks step.before) =
        (steps.flatMap fun step => step.request.asked step.before).map
          (Piece.map Test.check) := by
      rw [List.map_flatMap]
      exact List.flatMap_congr fun step _ => step.request.checks_eq step.before
    have htext := q.reads_condition
    rw [conditionWords, hcondition] at htext
    rw [hchecks] at hpieces
    rw [hparams]
    refine Condition.readAs Test.filled_written Test.testReads htext (fun t ht => ?_) hpieces
    rw [Condition.tests, List.filterMap_flatMap] at ht
    obtain ⟨step, -, ht⟩ := List.mem_flatMap.mp ht
    exact Request.params_of_asked ht
  · have hjoined : List.Forall₂ (fun asked (j : Join) => asked.foldl Condition.extend [] = j.condition)
        (steps.filterMap fun step => step.request.joins? step.before) q.joins := by
      refine List.forall₂_map_left_iff.mp (List.forall₂_map_right_iff.mp ?_)
      rw [h.conditions_eq, List.forall₂_eq_eq_eq]
    have hchecks : (steps.filterMap fun step => step.request.joinChecks? step.before) =
        (steps.filterMap fun step => step.request.joins? step.before).map
          (List.map (Piece.map ColumnTest.check)) := by
      rw [List.map_filterMap]
      exact congrArg (List.filterMap · steps)
        (funext fun step => step.request.joinChecks?_eq step.before)
    rw [hchecks, List.forall₂_map_left_iff]
    refine hjoined.imp fun asked j hj pieces hpieces => ?_
    have hspaced : j.condition.Spaced := hj ▸ spaced_foldl_extend .nil asked
    have htext := j.reads_condition q.dialect hspaced
    rw [Join.conditionWords, ← hj] at htext
    have hread := Condition.readAs ColumnTest.filled_written ColumnTest.testReads htext
      (fun _ _ => rfl) hpieces
    have hnone : (Condition.tests asked).flatMap (fun _ => ([] : List Value)) = [] :=
      List.flatMap_eq_nil_iff.mpr fun _ _ => rfl
    rwa [hnone, hj] at hread

/-- A band, whose columns have names that end like what lets a test follow. -/
def bandClass : EntityClass :=
  { name := "Band", marker := some "band"
    lineage := [{ name := "Band", defaults := [], construction := none
                  fields := [("owner", .annotated (.type .int) [.column { name := "BY OR" }]),
                    ("title", .annotated (.type .text) [.column { name := "GRAND" }]),
                    ("label", .annotated (.type .text) [.column { name := "no (" }])] }] }

/-- Items with their bands, by calls that leave connectives out. -/
def bands : List Request :=
  [.build (.join .left bandClass (some "b")
      [.opening, .test ⟨"id", .equal, "owner", none⟩, .or, .test ⟨"name", .like, "title", none⟩,
        .closing, .test ⟨"id", .notEqual, "label", none⟩]),
    .build (.filter [.test (.compare "label" .notEqual .null (some bandClass)),
      .test (.among "owner" (.list []) (some bandClass)), .or]),
    .build (.filter [.opening, .test (.compare "title" .less .null (some bandClass)),
      .test (.among "owner" (.list [.int 1, .null]) (some bandClass)), .closing,
      .test (.compare "id" .greaterOrEqual (.int 5) none)])]

theorem reads_calls_bands :
    (itemsAfter bands).conditionText =
      "\"b\".\"no (\" IS NOT NULL AND \"b\".\"BY OR\" IN (SELECT 1 WHERE 1=0)" ++
        " OR (\"b\".\"GRAND\" < NULL AND \"b\".\"BY OR\" IN (?, ?)) AND \"id\" >= ?" ∧
    ReadAs (itemsAfter bands).conditionText (itemsAfter bands).params
      [.test (.isNotNull ⟨some "b", "no ("⟩), .and, .test (.among ⟨some "b", "BY OR"⟩ []), .or,
        .opening, .test (.compare ⟨some "b", "GRAND"⟩ .less (.value .null)), .and,
        .test (.among ⟨some "b", "BY OR"⟩ [.int 1, .null]), .closing, .and,
        .test (.compare ⟨none, "id"⟩ .greaterOrEqual (.value (.int 5)))] ∧
    ∀ j ∈ (itemsAfter bands).joins, ReadAs (j.condition.text (ColumnTest.text .sqlite)) []
      [.opening, .test (.compare ⟨none, "id"⟩ .equal (.column ⟨some "b", "BY OR"⟩)), .or,
        .test (.compare ⟨none, "name"⟩ .like (.column ⟨some "b", "GRAND"⟩)), .closing, .and,
        .test (.compare ⟨none, "id"⟩ .notEqual (.column ⟨some "b", "no ("⟩))] := by
  have hok : ∀ step ∈ steps bands (default, start .sqlite TableMap.itemMap),
      step.request.filters = true → step.result.isOk = true := by decide +kernel
  have hlisted : ∀ step ∈ steps bands (default, start .sqlite TableMap.itemMap),
      step.request.filters = true → step.result ≠ .error unlistable := by
    intro step hstep hfilters hfailed
    have hresult := hok step hstep hfilters
    rw [hfailed] at hresult
    contradiction
  have hcalls : (steps bands (default, start .sqlite TableMap.itemMap)).flatMap
      (fun step => step.request.checks step.before) =
        [.test (.isNotNull ⟨some "b", "no ("⟩), .test (.among ⟨some "b", "BY OR"⟩ []), .or,
          .opening, .test (.compare ⟨some "b", "GRAND"⟩ .less (.value .null)),
          .test (.among ⟨some "b", "BY OR"⟩ [.int 1, .null]), .closing,
          .test (.compare ⟨none, "id"⟩ .greaterOrEqual (.value (.int 5)))] := by decide +kernel
  have hjoins : (steps bands (default, start .sqlite TableMap.itemMap)).filterMap
      (fun step => step.request.joinChecks? step.before) =
        [[.opening, .test (.compare ⟨none, "id"⟩ .equal (.column ⟨some "b", "BY OR"⟩)), .or,
          .test (.compare ⟨none, "name"⟩ .like (.column ⟨some "b", "GRAND"⟩)), .closing,
          .test (.compare ⟨none, "id"⟩ .notEqual (.column ⟨some "b", "no ("⟩))]] := by
    decide +kernel
  obtain ⟨hfilters, hjoined⟩ := (history_itemsAfter bands).reads_calls hlisted
  rw [hcalls] at hfilters
  rw [hjoins] at hjoined
  refine ⟨by decide +kernel, hfilters _ ?_, fun j hj => ?_⟩
  · have hgroup := Completes.group (.omitted (.first (.test
      (.compare ⟨some "b", "GRAND"⟩ .less (.value .null)))) (Check.among ⟨some "b", "BY OR"⟩
        [.int 1, .null]))
    have hfront := Completes.omitted (.first (.test (.isNotNull ⟨some "b", "no ("⟩)))
      (Check.among ⟨some "b", "BY OR"⟩ [])
    exact .omitted (.connected (.inr rfl) hfront hgroup)
      (.compare ⟨none, "id"⟩ .greaterOrEqual (.value (.int 5)))
  · have hdialect : (itemsAfter bands).dialect = .sqlite := by decide +kernel
    obtain ⟨joined, rest, hread, hrest, heq⟩ := List.forall₂_cons_left_iff.mp hjoined
    rw [List.forall₂_nil_left_iff.mp hrest] at heq
    rw [heq, List.mem_singleton] at hj
    rw [hj, ← hdialect]
    refine hread _ ?_
    have hgroup := Completes.group (.connected (.inr rfl)
      (.first (.test (.compare ⟨none, "id"⟩ .equal (.column ⟨some "b", "BY OR"⟩))))
      (.test (Check.compare ⟨none, "name"⟩ .like (.column ⟨some "b", "GRAND"⟩))))
    exact .omitted (.first hgroup) (.compare ⟨none, "id"⟩ .notEqual (.column ⟨some "b", "no ("⟩))

end Query

end RelationalMapper
