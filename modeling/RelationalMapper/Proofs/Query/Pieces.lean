import RelationalMapper.Proofs.Dialect.Deletion
import RelationalMapper.Proofs.Query.Words
import RelationalMapper.Proofs.Sql.Formula

/-! # Conditions as they are read

A condition is read back piece by piece, each test with its values in the places of its marks. -/

namespace RelationalMapper

open Sql

/-! ## Reading tests one after the other -/

namespace Sql

section Reading

variable {test ts : List Term} {t : Term} {p : Piece Check}

/-- A test goes on as long as nothing else begins. -/
theorem pieces?_append (h : ∀ t ∈ ts, connective? t = none) (test rest : List Term) :
    pieces? test false (ts ++ rest) = pieces? (test ++ ts) false rest := by
  induction ts generalizing test with
  | nil => rw [List.nil_append, List.append_nil]
  | cons t ts ih =>
      have ht := h t List.mem_cons_self
      have hopening : t ≠ keyword "(" := by
        rintro rfl
        contradiction
      rw [List.cons_append, pieces?, if_neg (by simp), if_neg (by simp [hopening]), ht]
      dsimp only
      rw [ih (fun t' ht' => h t' (List.mem_cons_of_mem t ht')), List.append_assoc]
      rfl

/-- Between the parentheses of a list, all belongs to the test. -/
theorem pieces?_listing (h : keyword ")" ∉ ts) (test rest : List Term) :
    pieces? test true (ts ++ keyword ")" :: rest) =
      pieces? (test ++ ts ++ [keyword ")"]) false rest := by
  induction ts generalizing test with
  | nil =>
      rw [List.nil_append, pieces?, if_pos rfl, List.append_nil]
      rfl
  | cons t ts ih =>
      have ht : t ≠ keyword ")" := fun he => h (he ▸ List.mem_cons_self)
      rw [List.cons_append, pieces?, if_pos rfl, decide_eq_true ht,
        ih fun he => h (List.mem_cons_of_mem t he)]
      simp

/-- A connective or a parenthesis ends the test in front of it, unless that has just come to a list. -/
theorem pieces?_connective (ht : connective? t = some p)
    (hlast : test.getLast? ≠ some (keyword "IN")) (rest : List Term) :
    pieces? test false (t :: rest) =
      (finished? test).bind fun front => (pieces? [] false (t :: rest)).map (front ++ ·) := by
  have hopening (test : List Term) (hlast : test.getLast? ≠ some (keyword "IN")) :
      pieces? test false (t :: rest) = (finished? test).bind fun front =>
        (pieces? [] false rest).map (front ++ p :: ·) := by
    rw [pieces?, if_neg (by simp), if_neg fun h => hlast h.2, ht]
    cases finished? test with
    | none => rfl
    | some front => cases pieces? [] false rest <;> rfl
  rw [hopening test hlast, hopening [] (by simp)]
  cases finished? test with
  | none => rfl
  | some front => cases pieces? [] false rest <;> rfl

/-- Behind IN, a parenthesis opens a list. -/
theorem pieces?_in (test : List Term) (hitems : keyword ")" ∉ ts) (rest : List Term) :
    pieces? (test ++ [keyword "IN"]) false (keyword "(" :: (ts ++ keyword ")" :: rest)) =
      pieces? (test ++ keyword "IN" :: keyword "(" :: (ts ++ [keyword ")"])) false rest := by
  rw [pieces?, if_neg (by simp), if_pos (by simp), pieces?_listing hitems]
  simp

/-- The terms are read as the test, wherever they stand. -/
structure TestReads (terms : List Term) (c : Check) : Prop where
  check_eq : check? terms = some c
  last_ne : terms.getLast? ≠ some (keyword "IN")
  scan : ∀ rest, pieces? [] false (terms ++ rest) = pieces? terms false rest

theorem TestReads.finished?_eq {terms : List Term} {c : Check} (h : TestReads terms c) :
    finished? terms = some [.test c] := by
  have hne : terms ≠ [] := by
    rintro rfl
    cases h.check_eq
  rw [finished?, if_neg hne, h.check_eq]
  rfl

end Reading

end Sql

/-! ## Reading conditions -/

namespace Piece

variable {τ υ : Type}

def map (f : τ → υ) : Piece τ → Piece υ
  | test t => test (f t)
  | and => and
  | or => or
  | opening => opening
  | closing => closing

def terms (read : τ → List Term) : Piece τ → List Term
  | test t => read t
  | and => [keyword "AND"]
  | or => [keyword "OR"]
  | opening => [keyword "("]
  | closing => [keyword ")"]

end Piece

namespace Condition

variable {τ : Type}

/-- A condition whose tests stand apart is read back piece by piece. -/
theorem pieces?_terms {read : τ → List Term} {check : τ → Check}
    (h : ∀ t, TestReads (read t) (check t)) {c : Condition τ} (hc : c.Spaced) :
    pieces? [] false (c.flatMap (Piece.terms read)) = some (c.map (Piece.map check)) := by
  have hbegun {k : Term} {p : Piece Check} (hk : connective? k = some p) {rest : List Term}
      {ps : List (Piece Check)} (hrest : pieces? [] false rest = some ps) :
      pieces? [] false (k :: rest) = some (p :: ps) := by
    rw [pieces?, if_neg (by simp), if_neg (by simp), hk, hrest]
    rfl
  induction c with
  | nil => rfl
  | cons piece c ih =>
      have hrest := ih hc.tail
      rw [List.flatMap_cons, List.map_cons]
      cases piece with
      | and => exact hbegun rfl hrest
      | or => exact hbegun rfl hrest
      | opening => exact hbegun rfl hrest
      | closing => exact hbegun rfl hrest
      | test t =>
          obtain ⟨k, ks, p, hnext, hk⟩ | hnone : (∃ k ks p, c.flatMap (Piece.terms read) = k :: ks ∧
              connective? k = some p) ∨ c = [] := by
            cases c with
            | nil => exact .inr rfl
            | cons next c =>
                have hnext : next.test?.isSome = false := hc.rel rfl
                cases next with
                | test t' => contradiction
                | _ => exact .inl ⟨_, _, _, rfl, rfl⟩
          · rw [Piece.terms, (h t).scan]
            rw [hnext] at hrest ⊢
            rw [pieces?_connective hk (h t).last_ne, (h t).finished?_eq, hrest]
            rfl
          · rw [hnone, Piece.terms, (h t).scan]
            exact (h t).finished?_eq

/-- The values of the tests stand in the places of their marks. -/
theorem filled_written {write : τ → Written} {own : τ → List Value} {read : τ → List Term}
    (h : ∀ t, filled ((write t).flatMap Fragment.words) (own t) = some (read t))
    (c : Condition τ) :
    filled ((c.written write).flatMap Fragment.words) (c.tests.flatMap own) =
      some (c.flatMap (Piece.terms read)) := by
  have hword (k : String) {text : String} (htext : (Fragment.plain text).words = [.symbol k]) :
      filled ([Fragment.plain text].flatMap Fragment.words) [] = some [keyword k] := by
    simp [htext, filled]
  induction c with
  | nil => rfl
  | cons piece c ih =>
      rw [written, List.flatMap_cons, List.flatMap_append, List.flatMap_cons]
      cases piece with
      | test t => exact filled_append (h t) ih
      | and => exact filled_append (hword "AND" (by decide)) ih
      | or => exact filled_append (hword "OR" (by decide)) ih
      | opening => exact filled_append (hword "(" (by decide)) ih
      | closing => exact filled_append (hword ")" (by decide)) ih

end Condition

/-! ## Columns and comparisons -/

namespace ColumnRef

def terms (c : ColumnRef) : List Term := c.words.map .word

theorem column?_terms (c : ColumnRef) {rest : List Term} (h : rest.head? ≠ some (keyword ".")) :
    column? (c.terms ++ rest) = some (c, rest) := by
  rcases c with ⟨_ | name, column⟩
  · cases rest with
    | nil => rfl
    | cons t rest =>
        have ht : t ≠ keyword "." := by simpa using h
        simp only [terms, words, List.map_cons, List.map_nil, List.cons_append, List.nil_append]
        unfold column?
        split
        · rename_i heq
          simp_all
        · rename_i heq
          simp_all
        · simp_all
  · rfl

theorem operand?_terms (c : ColumnRef) : operand? c.terms = some (.column c) := by
  rcases c with ⟨_ | name, column⟩ <;> rfl

theorem connective?_terms (c : ColumnRef) : ∀ t ∈ c.terms, connective? t = none := by
  rcases c with ⟨_ | name, column⟩ <;> simp [terms, words, connective?]

end ColumnRef

namespace Comparison

def terms (op : Comparison) : List Term := op.words.map .word

/-- An operator is read, if what stands behind it does not make another one of it. -/
theorem comparison?_terms (op : Comparison) {right : List Term}
    (hright : ∀ k, right.head? = some (keyword k) → k = "NULL") :
    comparison? (op.terms ++ right) = some (op, right) := by
  rcases right with _ | ⟨(k | n | text | _) | v, right⟩
  case cons.word.symbol =>
      obtain rfl := hright k rfl
      cases op <;> rfl
  all_goals cases op <;> rfl

theorem check?_terms (c : ColumnRef) (op : Comparison) {right : List Term} {operand : Operand}
    (hright : ∀ k, right.head? = some (keyword k) → k = "NULL")
    (hoperand : operand? right = some operand) :
    check? (c.terms ++ (op.terms ++ right)) = some (.compare c op operand) := by
  have hdot : (op.terms ++ right).head? ≠ some (keyword ".") := by
    cases op <;> simp [terms, words]
  have hcomparison := op.comparison?_terms hright
  rw [check?, c.column?_terms hdot]
  cases op <;> simp_all [terms, words]

end Comparison

/-! ## Tests -/

namespace Test

/-- What a test is read as. -/
def check : Test → Check
  | compare column op value => .compare column op (.value value)
  | isNull column => .isNull column
  | isNotNull column => .isNotNull column
  | compareNull column op => .compare column op (.value .null)
  | among column values => .among column values

/-- The list of a test, with its values. -/
def itemTerms (values : List Value) : List Term :=
  if values = [] then (textWords noRows.toList).map .word else listTerms values

def predicateTerms : Test → List Term
  | compare _ op value => op.terms ++ [.value value]
  | isNull _ => [keyword "IS", keyword "NULL"]
  | isNotNull _ => [keyword "IS", keyword "NOT", keyword "NULL"]
  | compareNull _ op => op.terms ++ [keyword "NULL"]
  | among _ values => keyword "IN" :: keyword "(" :: (itemTerms values ++ [keyword ")"])

/-- A test with its values. -/
def terms (t : Test) : List Term := t.column.terms ++ t.predicateTerms

theorem closing_not_mem_itemTerms (values : List Value) : keyword ")" ∉ itemTerms values := by
  unfold itemTerms
  split
  · decide
  · exact not_mem_listTerms (by decide) values

theorem members?_itemTerms (values : List Value) :
    members? (itemTerms values ++ [keyword ")"]) = some values := by
  cases values with
  | nil => rfl
  | cons v values =>
      have hlisted := listed?_listTerms (List.cons_ne_nil v values)
      have hvalue : ∃ rest, listTerms (v :: values) = .value v :: rest := by
        cases values <;> exact ⟨_, rfl⟩
      obtain ⟨rest, hrest⟩ := hvalue
      rw [itemTerms, if_neg (by simp), members?.eq_def]
      split
      · rename_i heq
        rw [hrest] at heq
        cases heq
      · exact hlisted

theorem check?_terms (t : Test) : check? t.terms = some t.check := by
  have hcolumn : t.predicateTerms.head? ≠ some (keyword ".") →
      column? t.terms = some (t.column, t.predicateTerms) := t.column.column?_terms
  cases t with
  | compare column op value => exact op.check?_terms column (by simp) rfl
  | isNull column | isNotNull column =>
      rw [check?, hcolumn (by simp [predicateTerms])]
      rfl
  | compareNull column op => exact op.check?_terms column (by simp) rfl
  | among column values =>
      rw [check?, hcolumn (by simp [predicateTerms])]
      simp [predicateTerms, members?_itemTerms, check, Test.column]

theorem testReads (t : Test) : TestReads t.terms t.check where
  check_eq := t.check?_terms
  last_ne := by
    cases t with
    | among column values =>
        have hlast : (among column values).terms =
            column.terms ++ keyword "IN" :: keyword "(" :: itemTerms values ++ [keyword ")"] := by
          simp [terms, predicateTerms, Test.column]
        rw [hlast, List.getLast?_concat]
        simp
    | _ => simp [terms, predicateTerms, List.getLast?_append]
  scan rest := by
    have hop (op : Comparison) : ∀ t ∈ op.terms, connective? t = none := by cases op <;> decide
    have hcolumn := t.column.connective?_terms
    have hplain (h : ∀ p ∈ t.predicateTerms, connective? p = none) :
        pieces? [] false (t.terms ++ rest) = pieces? t.terms false rest := by
      have hall := pieces?_append (List.forall_mem_append.mpr ⟨hcolumn, h⟩) [] rest
      rwa [List.nil_append] at hall
    cases t with
    | compare column op value =>
        exact hplain (List.forall_mem_append.mpr ⟨hop op, by simp [connective?]⟩)
    | isNull column | isNotNull column => exact hplain (by simp [predicateTerms, connective?])
    | compareNull column op =>
        exact hplain (List.forall_mem_append.mpr ⟨hop op, by simp [connective?]⟩)
    | among column values =>
        have hfront : ∀ p ∈ column.terms ++ [keyword "IN"], connective? p = none :=
          List.forall_mem_append.mpr ⟨hcolumn, by simp [connective?]⟩
        have hall := pieces?_append hfront []
          (keyword "(" :: (itemTerms values ++ keyword ")" :: rest))
        rw [List.nil_append, pieces?_in _ (closing_not_mem_itemTerms values)] at hall
        simpa [terms, predicateTerms, Test.column] using hall

theorem filled_written (t : Test) :
    filled (t.written.flatMap Fragment.words) t.params = some t.terms := by
  have hcolumn : filled t.column.words [] = some t.column.terms := by
    refine filled_of_not_mark_mem ?_
    unfold ColumnRef.words
    split <;> simp
  have hpredicate : filled t.predicateWords t.params = some t.predicateTerms := by
    cases t with
    | compare column op value => cases op <;> simp [predicateWords, predicateTerms, params, filled,
        Comparison.words, Comparison.terms]
    | isNull column | isNotNull column => simp [predicateWords, predicateTerms, params, filled]
    | compareNull column op => cases op <;> simp [predicateWords, predicateTerms, params, filled,
        Comparison.words, Comparison.terms]
    | among column values =>
        have hlead : filled [.symbol "IN", .symbol "("] [] = some [keyword "IN", keyword "("] := by
          simp [filled]
        have hend : filled [.symbol ")"] [] = some [keyword ")"] := by simp [filled]
        have hitems : filled (if values = [] then textWords noRows.toList
            else Dialect.markWords values.length) values = some (itemTerms values) := by
          unfold itemTerms
          split
          · rename_i hnone
            rw [hnone]
            exact filled_of_not_mark_mem (not_mark_mem_textWords _)
          · exact Dialect.filled_markWords values
        have hall := filled_append hlead (filled_append hitems hend)
        rw [List.nil_append, List.append_nil] at hall
        exact hall
  rw [t.words_written]
  exact filled_append hcolumn hpredicate

end Test

namespace ColumnTest

/-- What a comparison of two columns is read as. -/
def check (t : ColumnTest) : Check := .compare t.left t.op (.column t.right)

def terms (t : ColumnTest) : List Term := t.left.terms ++ (t.op.terms ++ t.right.terms)

theorem testReads (t : ColumnTest) : TestReads t.terms t.check where
  check_eq := by
    refine t.op.check?_terms t.left (fun k hk => ?_) t.right.operand?_terms
    unfold ColumnRef.terms ColumnRef.words at hk
    split at hk <;> simp at hk
  last_ne := by
    have hlast : t.right.terms.getLast? = some (named t.right.column) := by
      unfold ColumnRef.terms ColumnRef.words
      split <;> rfl
    simp [terms, List.getLast?_append, hlast]
  scan rest := by
    have hop : ∀ p ∈ t.op.terms, connective? p = none := by cases t.op <;> decide
    have hplain := List.forall_mem_append.mpr ⟨t.left.connective?_terms,
      List.forall_mem_append.mpr ⟨hop, t.right.connective?_terms⟩⟩
    have hall := pieces?_append hplain [] rest
    rwa [List.nil_append] at hall

theorem filled_written (t : ColumnTest) :
    filled (t.written.flatMap Fragment.words) [] = some t.terms := by
  have hcolumn (c : ColumnRef) : .mark ∉ c.words := by
    unfold ColumnRef.words
    split <;> simp
  have hop : .mark ∉ t.op.words := by cases t.op <;> decide
  rw [t.words_written, words, List.append_assoc]
  refine (filled_of_not_mark_mem ?_).trans ?_
  · simp [hcolumn, hop]
  · simp [terms, ColumnRef.terms, Comparison.terms]

end ColumnTest

end RelationalMapper
