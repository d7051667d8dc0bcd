import Mathlib.Data.List.Chain
import RelationalMapper.Proofs.Dialect.Written
import RelationalMapper.Query.Compile

/-! # Conditions as they are written

The tests of a condition are the parts of a statement that bind values; connectives, parentheses
and joined tables bind none. -/

namespace RelationalMapper

open Sql

/-! ## Columns and tests -/

namespace ColumnRef

def written (c : ColumnRef) : Written :=
  match c.qualifier with
  | some name => [.name name, .plain ".", .name c.column]
  | none => [.name c.column]

@[simp] theorem chars_written (d : Dialect) (c : ColumnRef) :
    Written.chars d.quotes c.written = (d.columnText c).toList := by
  rcases c with ⟨_ | name, column⟩ <;> simp [written, Dialect.columnText, Fragment.chars]

@[simp] theorem not_mark_mem_written (c : ColumnRef) : .mark ∉ c.written := by
  unfold written
  split <;> simp

theorem clean_written (c : ColumnRef) : c.written.Clean := by
  unfold written
  split <;> simp [Fragment.isName, isPlain, specials]

/-- A column may be followed by any text that does not begin with a name. -/
theorem clean_written_append (c : ColumnRef) {w : Written} (hw : w.Clean) (ho : w.OpensPlain) :
    (c.written ++ w).Clean := c.clean_written.append hw ho

end ColumnRef

namespace Test

def written : Test → Written
  | compare column op _ => column.written ++ [.plain (" " ++ op.text ++ " "), .mark]
  | isNull column => column.written ++ [.plain " IS NULL"]
  | isNotNull column => column.written ++ [.plain " IS NOT NULL"]
  | compareNull column op => column.written ++ [.plain (" " ++ op.text ++ " NULL")]
  | among column values =>
    column.written ++ .plain " IN (" ::
      ((if values = [] then [.plain noRows] else Written.markers values.length) ++ [.plain ")"])

theorem chars_written (d : Dialect) (t : Test) :
    Written.chars d.quotes t.written = (t.text d).toList := by
  cases t with
  | among column values =>
      by_cases h : values = []
      · simp [written, text, h, Fragment.chars]
      · simp [written, text, h, Fragment.chars, Written.chars_markers]
  | _ => simp [written, text, Fragment.chars, questionMark]

theorem clean_written (t : Test) : t.written.Clean := by
  cases t with
  | compare column op value =>
      refine column.clean_written_append ?_ (by simp [Fragment.isName])
      cases op <;> simp [Comparison.text] <;> decide
  | isNull column | isNotNull column =>
      exact column.clean_written_append (by simp; decide) (by simp [Fragment.isName])
  | compareNull column op =>
      refine column.clean_written_append ?_ (by simp [Fragment.isName])
      cases op <;> simp [Comparison.text] <;> decide
  | among column values =>
      refine column.clean_written_append ?_ (by simp [Fragment.isName])
      have hlist : Written.Clean
          ((if values = [] then [.plain noRows] else Written.markers values.length)
            ++ [.plain ")"]) := by
        refine Written.Clean.append ?_ (by simp; decide) (by simp [Fragment.isName])
        split
        · simp [noRows]; decide
        · exact Written.clean_markers _
      exact (Written.clean_plain ..).mpr ⟨by decide, by decide, hlist⟩

theorem sealed_written (t : Test) : t.written.Sealed := by
  cases t with
  | compare column op value =>
      have h : (compare column op value).written =
          (column.written ++ [.plain (" " ++ op.text ++ " ")]) ++ [.mark] := by simp [written]
      rw [h]
      exact (Written.sealed_concat ..).mpr rfl
  | among column values =>
      have h : (among column values).written = (column.written ++ .plain " IN (" ::
          (if values = [] then [.plain noRows] else Written.markers values.length))
            ++ [.plain ")"] := by simp [written]
      rw [h]
      exact (Written.sealed_concat ..).mpr rfl
  | _ => simp [written, Fragment.isName]

theorem count_mark_written (t : Test) : t.written.count .mark = t.params.length := by
  cases t with
  | among column values =>
      by_cases h : values = [] <;>
        simp [written, params, h, Written.count_mark_markers, List.count_eq_zero]
  | _ => simp [written, params, List.count_eq_zero]

/-- A test as a part of a statement. -/
def part (d : Dialect) (t : Test) : Part := ⟨t.text d, t.params⟩

theorem carries_written (d : Dialect) (t : Test) : Carries d.quotes t.written [t.part d] :=
  .single (t.chars_written d) t.clean_written t.count_mark_written

end Test

namespace ColumnTest

def written (t : ColumnTest) : Written :=
  t.left.written ++ .plain (" " ++ t.op.text ++ " ") :: t.right.written

theorem chars_written (d : Dialect) (t : ColumnTest) :
    Written.chars d.quotes t.written = (t.text d).toList := by
  simp [written, text, Fragment.chars]

theorem clean_written (t : ColumnTest) : t.written.Clean := by
  refine t.left.clean_written_append ?_ (by simp [Fragment.isName])
  have hop : " " ++ t.op.text ++ " " ≠ "" ∧ isPlain (" " ++ t.op.text ++ " ").toList = true := by
    cases t.op <;> decide
  exact (Written.clean_plain ..).mpr ⟨hop.1, hop.2, t.right.clean_written⟩

end ColumnTest

/-! ## Conditions -/

namespace Piece

variable {τ : Type}

def written (write : τ → Written) : Piece τ → Written
  | test t => write t
  | and => [.plain " AND "]
  | or => [.plain " OR "]
  | opening => [.plain "("]
  | closing => [.plain ")"]

theorem chars_written {q : Quotes} {write : τ → Written} {render : τ → String}
    (h : ∀ t, Written.chars q (write t) = (render t).toList) (p : Piece τ) :
    Written.chars q (p.written write) = (p.text render).toList := by
  cases p <;> simp [written, text, h, Fragment.chars]

end Piece

namespace Condition

variable {τ : Type}

def written (write : τ → Written) (c : Condition τ) : Written := c.flatMap (Piece.written write)

theorem chars_written {q : Quotes} {write : τ → Written} {render : τ → String}
    (h : ∀ t, Written.chars q (write t) = (render t).toList) (c : Condition τ) :
    Written.chars q (c.written write) = (c.text render).toList := by
  rw [text, Text.toList_joined_empty]
  induction c with
  | nil => rfl
  | cons p c ih =>
      have hp := p.chars_written h
      simpa [written, hp] using ih

/-- No test stands directly behind another one. -/
def Spaced (c : Condition τ) : Prop :=
  c.IsChain fun a b => a.test?.isSome = true → b.test?.isSome = false

/-- A condition whose tests end with a name is written cleanly if its tests stand apart. -/
theorem clean_written_of_spaced {write : τ → Written} (hclean : ∀ t, (write t).Clean)
    {c : Condition τ} (hc : c.Spaced) : Written.Clean (c.written write) := by
  induction c with
  | nil => trivial
  | cons p c ih =>
      have hrest : Written.Clean (written write c) := ih hc.tail
      cases p with
      | test t =>
          refine (hclean t).append hrest ?_
          cases c with
          | nil => exact Written.opensPlain_nil
          | cons p c =>
              have hp : p.test?.isSome = false := hc.rel rfl
              cases p <;> simp_all [written, Piece.written, Piece.test?, Fragment.isName]
      | _ =>
          refine (Written.clean_plain ..).mpr ⟨by decide, by decide, hrest⟩

/-- A condition of tests that bind values needs nothing between them. -/
theorem clean_written (c : Condition Test) : Written.Clean (c.written Test.written) := by
  induction c with
  | nil => trivial
  | cons p c ih =>
      cases p with
      | test t => exact t.clean_written.append_of_sealed t.sealed_written ih
      | _ => exact (Written.clean_plain ..).mpr ⟨by decide, by decide, ih⟩

/-- The tests of a condition, in their order, are its parts that bind values. -/
theorem carries_written (d : Dialect) (c : Condition Test) :
    Carries d.quotes (c.written Test.written) (c.tests.map (Test.part d)) := by
  induction c with
  | nil => exact .frame List.not_mem_nil
  | cons p c ih =>
      cases p with
      | test t => exact (t.carries_written d).append ih
      | _ => exact ih.prepend (v := Piece.written Test.written _) (by simp [Piece.written])

theorem params_eq (d : Dialect) (c : Condition Test) :
    c.params = (c.tests.map (Test.part d)).flatMap (·.params) := by
  rw [params, List.flatMap_map]
  rfl

end Condition

end RelationalMapper
