import RelationalMapper.Proofs.Action
import RelationalMapper.Proofs.Sql.Words

/-! # What a deletion takes

A database reads a deletion with its parameters in the places of the marks. The condition offers
alternatives, each of which asks some columns for one of several values. -/

namespace RelationalMapper.Sql

/-- A word, or the parameter in the place of a mark. -/
inductive Term where
  | word (w : Word)
  | value (v : Value)
  deriving DecidableEq

/-- The parameters take the places of the marks from left to right, as many of them as there are. -/
def filled : List Word → List Value → Option (List Term)
  | [], params => if params = [] then some [] else none
  | w :: ws, params =>
    if w = .mark then
      match params with
      | [] => none
      | v :: rest => (filled ws rest).map (.value v :: ·)
    else (filled ws params).map (.word w :: ·)

section Filled

variable {ws ws' : List Word} {params params' : List Value} {terms terms' : List Term}

theorem filled_mark (ws : List Word) (v : Value) (params : List Value) :
    filled (.mark :: ws) (v :: params) = (filled ws params).map (.value v :: ·) := by
  rw [filled, if_pos rfl]

theorem filled_cons {w : Word} (hw : w ≠ .mark) (ws : List Word) (params : List Value) :
    filled (w :: ws) params = (filled ws params).map (.word w :: ·) := by
  rw [filled.eq_def]
  simp only [if_neg hw]

theorem filled_append (h : filled ws params = some terms) (h' : filled ws' params' = some terms') :
    filled (ws ++ ws') (params ++ params') = some (terms ++ terms') := by
  induction ws generalizing params terms with
  | nil =>
      cases params with
      | nil =>
          obtain rfl : [] = terms := by simpa [filled] using h
          exact h'
      | cons v params => simp [filled] at h
  | cons w ws ih =>
      by_cases hw : w = .mark
      · rw [hw] at h ⊢
        cases params with
        | nil => simp [filled] at h
        | cons v params =>
            rw [filled_mark] at h
            obtain ⟨rest, hrest, rfl⟩ := Option.map_eq_some_iff.mp h
            rw [List.cons_append, List.cons_append, filled_mark, ih hrest]
            rfl
      · rw [filled_cons hw] at h
        obtain ⟨rest, hrest, rfl⟩ := Option.map_eq_some_iff.mp h
        rw [List.cons_append, filled_cons hw, ih hrest]
        rfl

/-- Rows with the same word between each two of them are filled one after the other. -/
theorem filled_intercalate {α : Type} {separator : Word} (hsep : separator ≠ .mark)
    {items : List α} {row : α → List Word} {own : α → List Value} {read : α → List Term}
    (h : ∀ x ∈ items, filled (row x) (own x) = some (read x)) :
    filled ([separator].intercalate (items.map row)) (items.flatMap own) =
      some ([.word separator].intercalate (items.map read)) := by
  induction items with
  | nil => rfl
  | cons x items ih =>
      have hx := h x List.mem_cons_self
      have hrest := ih fun y hy => h y (List.mem_cons_of_mem x hy)
      cases items with
      | nil => simpa using hx
      | cons y items =>
          have hbetween : filled [separator] [] = some [.word separator] := by
            rw [filled_cons hsep]
            rfl
          have hfirst := filled_append hx hbetween
          rw [List.append_nil] at hfirst
          have hall := filled_append hfirst hrest
          rwa [List.map_cons, ← List.intercalate_cons_cons, List.map_cons,
            ← List.intercalate_cons_cons] at hall

end Filled

/-! ## Conditions -/

/-- A column is asked for one of some values. -/
structure Membership where
  column : String
  values : List Value
  deriving DecidableEq

/-- Alternatives of tests that have to be met together. -/
abbrev Choice := List (List Membership)

/-- Values between commas, up to a closing parenthesis. -/
def listed? : List Term → Option (List Value)
  | [.value v, .word (.symbol ")")] => some [v]
  | .value v :: .word (.symbol ",") :: rest => (listed? rest).map (v :: ·)
  | _ => none

def membership? : List Term → Option Membership
  | [.word (.name column), .word (.symbol "="), .value v] => some ⟨column, [v]⟩
  | .word (.name column) :: .word (.symbol "IN") :: .word (.symbol "(") :: rest =>
    (listed? rest).map (⟨column, ·⟩)
  | _ => none

/-- What stands in parentheses, if all of it does. -/
def ungrouped (terms : List Term) : List Term :=
  if terms.head? = some (.word (.symbol "(")) ∧ terms.getLast? = some (.word (.symbol ")")) then
    terms.tail.dropLast
  else terms

/-- Tests with a conjunction between each two of them. -/
def tests? (terms : List Term) : Option (List Membership) :=
  ((ungrouped terms).splitOn (.word (.symbol "AND"))).mapM membership?

def choice? (terms : List Term) : Option Choice :=
  (terms.splitOn (.word (.symbol "OR"))).mapM tests?

/-- The table of a deletion and what it takes from there. -/
def deletion? (terms : List Term) : Option (String × Choice) :=
  match terms with
  | .word (.symbol "DELETE") :: .word (.symbol "FROM") :: .word (.name table) ::
      .word (.symbol "WHERE") :: condition => (choice? condition).map (table, ·)
  | _ => none

/-- A statement with its parameters, read as a deletion. -/
def deletionOf? (sql : String) (params : List Value) : Option (String × Choice) :=
  (filled (words sql) params).bind deletion?

/-! ## Reading conditions -/

section Reading

def listTerms (values : List Value) : List Term :=
  [.word (.symbol ",")].intercalate (values.map fun v => [.value v])

theorem listed?_listTerms {values : List Value} (h : values ≠ []) :
    listed? (listTerms values ++ [.word (.symbol ")")]) = some values := by
  induction values with
  | nil => contradiction
  | cons v values ih =>
      cases values with
      | nil => rfl
      | cons w values =>
          have hrest := ih (by simp)
          have hterms : listTerms (v :: w :: values) =
              .value v :: .word (.symbol ",") :: listTerms (w :: values) := by
            simp [listTerms, List.intercalate_cons_cons]
          rw [hterms, List.cons_append, List.cons_append, listed?, hrest]
          rfl

theorem not_mem_listTerms {connective : String} (h : connective ≠ ",") (values : List Value) :
    .word (.symbol connective) ∉ listTerms values := by
  intro hmem
  rcases mem_intercalate hmem with hmem | ⟨row, hrow, hmem⟩
  · simp [h] at hmem
  · obtain ⟨v, -, rfl⟩ := List.mem_map.mp hrow
    simp at hmem

/-- One column among some values. -/
theorem choice?_among (column : String) {values : List Value} (h : values ≠ []) :
    choice? (.word (.name column) :: .word (.symbol "IN") :: .word (.symbol "(") ::
      (listTerms values ++ [.word (.symbol ")")])) = some [[⟨column, values⟩]] := by
  have hor := not_mem_listTerms (show "OR" ≠ "," by decide) values
  have hand := not_mem_listTerms (show "AND" ≠ "," by decide) values
  have hread := listed?_listTerms h
  generalize listTerms values = terms at hor hand hread ⊢
  have htests : tests? (.word (.name column) :: .word (.symbol "IN") :: .word (.symbol "(") ::
      (terms ++ [.word (.symbol ")")])) = some [⟨column, values⟩] := by
    rw [tests?, ungrouped, if_neg (by simp), List.splitOn_eq_singleton (by simp [hand])]
    simp [membership?, hread]
  rw [choice?, List.splitOn_eq_singleton (by simp [hor])]
  simp [htests]

def testTerms (test : String × Value) : List Term :=
  [.word (.name test.1), .word (.symbol "="), .value test.2]

def groupTerms (tests : List (String × Value)) : List Term :=
  .word (.symbol "(") ::
    ([.word (.symbol "AND")].intercalate (tests.map testTerms) ++ [.word (.symbol ")")])

theorem tests?_groupTerms {tests : List (String × Value)} (h : tests ≠ []) :
    tests? (groupTerms tests) = some (tests.map fun test => ⟨test.1, [test.2]⟩) := by
  have hinside : ungrouped (groupTerms tests) =
      [.word (.symbol "AND")].intercalate (tests.map testTerms) := by
    have hlast : (groupTerms tests).getLast? = some (.word (.symbol ")")) := by
      rw [groupTerms, ← List.cons_append, List.getLast?_concat]
    rw [ungrouped, if_pos ⟨rfl, hlast⟩, groupTerms, List.tail_cons, List.dropLast_concat]
  have hand : ∀ terms ∈ tests.map testTerms, .word (.symbol "AND") ∉ terms := by
    intro terms hterms
    obtain ⟨test, -, rfl⟩ := List.mem_map.mp hterms
    simp [testTerms]
  rw [tests?, hinside, List.splitOn_intercalate _ hand (by simpa using h), List.mapM_map]
  exact mapM_eq_pure fun test _ => rfl

/-- Several columns with the values of one of some groups. -/
theorem choice?_groups {groups : List (List (String × Value))} (h : groups ≠ [])
    (hgroups : ∀ tests ∈ groups, tests ≠ []) :
    choice? ([.word (.symbol "OR")].intercalate (groups.map groupTerms)) =
      some (groups.map fun tests => tests.map fun test => ⟨test.1, [test.2]⟩) := by
  have hor : ∀ terms ∈ groups.map groupTerms, .word (.symbol "OR") ∉ terms := by
    intro terms hterms hmem
    obtain ⟨tests, -, rfl⟩ := List.mem_map.mp hterms
    simp only [groupTerms, List.mem_cons, List.mem_append, List.not_mem_nil, or_false] at hmem
    rcases hmem with hmem | hmem | hmem
    · simp at hmem
    · rcases mem_intercalate hmem with hmem | ⟨row, hrow, hmem⟩
      · simp at hmem
      · obtain ⟨test, -, rfl⟩ := List.mem_map.mp hrow
        simp [testTerms] at hmem
    · simp at hmem
  rw [choice?, List.splitOn_intercalate _ hor (by simpa using h), List.mapM_map]
  exact mapM_eq_pure fun tests htests => tests?_groupTerms (hgroups tests htests)

end Reading

/-! ## Tables -/

/-- A row of a table by the names of its columns. -/
abbrev Fields := String → Value

/-- No value is equal to null. -/
def Membership.holds (t : Membership) (row : Fields) : Bool :=
  t.values.any fun v => v ≠ .null && row t.column = v

def Choice.holds (choice : Choice) (row : Fields) : Bool :=
  choice.any fun tests => tests.all (·.holds row)

/-- One column is asked for the values themselves. -/
theorem Choice.holds_among (column : String) {values : List Value} (h : .null ∉ values)
    (row : Fields) : Choice.holds [[⟨column, values⟩]] row = decide (row column ∈ values) := by
  rw [Bool.eq_iff_iff]
  simp only [holds, List.any_cons, List.any_nil, Bool.or_false, List.all_cons, List.all_nil,
    Bool.and_true, Membership.holds, List.any_eq_true, Bool.and_eq_true, decide_eq_true_eq]
  constructor
  · rintro ⟨v, hv, -, rfl⟩
    exact hv
  · intro hmem
    refine ⟨row column, hmem, ?_, rfl⟩
    intro hnull
    exact h (hnull ▸ hmem)

theorem map_eq_iff_zip {columns : List String} {key : List Value}
    (h : key.length = columns.length) (row : Fields) :
    columns.map row = key ↔ ∀ test ∈ columns.zip key, row test.1 = test.2 := by
  induction columns generalizing key with
  | nil =>
      obtain rfl : key = [] := List.length_eq_zero_iff.mp h
      simp
  | cons column columns ih =>
      cases key with
      | nil => simp at h
      | cons v key =>
          have hlength : key.length = columns.length := by simpa using h
          simp [ih hlength]

/-- A group of tests is met by the rows with its key. -/
theorem Choice.holds_groups {columns : List String} {keys : List (List Value)}
    (hlength : ∀ key ∈ keys, key.length = columns.length) (hnull : ∀ key ∈ keys, .null ∉ key)
    (row : Fields) :
    Choice.holds (keys.map fun key => (columns.zip key).map fun test => ⟨test.1, [test.2]⟩) row =
      decide (columns.map row ∈ keys) := by
  have hgroup : ∀ key ∈ keys, (((columns.zip key).map fun test =>
      (⟨test.1, [test.2]⟩ : Membership)).all (·.holds row) = true ↔ columns.map row = key) := by
    intro key hkey
    rw [map_eq_iff_zip (hlength key hkey)]
    simp only [List.all_map, List.all_eq_true, Function.comp_apply, Membership.holds,
      List.any_cons, List.any_nil, Bool.or_false, Bool.and_eq_true, decide_eq_true_eq]
    constructor
    · intro h test htest
      exact (h test htest).2
    · intro h test htest
      refine ⟨?_, h test htest⟩
      intro hnone
      exact hnull key hkey (hnone ▸ (List.of_mem_zip htest).2)
  rw [Bool.eq_iff_iff]
  simp only [holds, List.any_map, List.any_eq_true, Function.comp_apply, decide_eq_true_eq]
  constructor
  · rintro ⟨key, hkey, htests⟩
    rw [(hgroup key hkey).mp htests]
    exact hkey
  · intro hmem
    exact ⟨columns.map row, hmem, (hgroup _ hmem).mpr rfl⟩

/-- The rows of each table. -/
abbrev Tables := String → List Fields

def Tables.without (tables : Tables) (table : String) (taken : Fields → Bool) : Tables :=
  fun other => if other = table then (tables other).filter (!taken ·) else tables other

theorem Tables.without_of_forall (tables : Tables) (table : String) {taken : Fields → Bool}
    (h : ∀ row, taken row = false) : tables.without table taken = tables := by
  funext other
  by_cases hother : other = table
  · simp [without, hother, h]
  · simp [without, hother]

theorem Tables.without_without (tables : Tables) (table : String) (p q : Fields → Bool) :
    (tables.without table p).without table q =
      tables.without table fun row => p row || q row := by
  funext other
  by_cases h : other = table
  · simp [without, h, List.filter_filter, Bool.and_comm]
  · simp [without, h]

/-- What deletions leave, one after the other with its parameters, if all of them can be read. -/
def Tables.afterDeletions? (tables : Tables) : List (String × List Value) → Option Tables
  | [] => some tables
  | (sql, params) :: rest => do
    let (table, choice) ← deletionOf? sql params
    afterDeletions? (tables.without table choice.holds) rest

end RelationalMapper.Sql
