import RelationalMapper.Proofs.Query.Asked
import RelationalMapper.Proofs.Sql.Formula

/-! # Calls that state a condition

A condition is stated by calls for tests, connectives and parentheses. Between a test and what stands in
front of it the connective may be left out; the condition that comes of the calls has AND there. -/

namespace RelationalMapper

open Sql

/-! ## What may stand behind a condition -/

/-- A test may not stand directly behind the piece. -/
def Piece.ends {τ : Type} : Piece τ → Bool
  | test _ | closing => true
  | and | or | opening => false

theorem Condition.needsAnd_concat {τ : Type} (c : Condition τ) (piece : Piece τ) :
    Condition.needsAnd (c ++ [piece]) = piece.ends := by
  rw [needsAnd, List.getLast?_concat]
  cases piece <;> rfl

/-! ## Calls -/

/-- One test or one group, or a sequence of such items. -/
inductive Shape where
  | item
  | sequence
  deriving DecidableEq

/-- The calls are a sequence of items with a connective between each two of them, which may be left out
in front of a test. Filled in, it is AND. -/
inductive Completes {τ : Type} : Shape → List (Piece τ) → List (Piece τ) → Prop where
  | test (t : τ) : Completes .item [.test t] [.test t]
  | group {calls pieces : List (Piece τ)} (h : Completes .sequence calls pieces) :
      Completes .item (.opening :: (calls ++ [.closing])) (.opening :: (pieces ++ [.closing]))
  | first {calls pieces : List (Piece τ)} (h : Completes .item calls pieces) :
      Completes .sequence calls pieces
  | connected {calls calls' pieces pieces' : List (Piece τ)} {connective : Piece τ}
      (hconnective : connective = .and ∨ connective = .or) (h : Completes .sequence calls pieces)
      (h' : Completes .item calls' pieces') :
      Completes .sequence (calls ++ connective :: calls') (pieces ++ connective :: pieces')
  | omitted {calls pieces : List (Piece τ)} (h : Completes .sequence calls pieces) (t : τ) :
      Completes .sequence (calls ++ [.test t]) (pieces ++ [.and, .test t])

namespace Completes

variable {τ : Type} {shape : Shape} {calls pieces : List (Piece τ)}

/-- What is filled in is no test. -/
theorem tests_eq (h : Completes shape calls pieces) :
    Condition.tests pieces = Condition.tests calls := by
  have hcons (piece : Piece τ) (ps : List (Piece τ)) :
      Condition.tests (piece :: ps) = piece.test?.toList ++ Condition.tests ps := by
    cases piece <;> rfl
  induction h with
  | test t => rfl
  | group _ ih => rw [hcons, hcons, Condition.tests_append, Condition.tests_append, ih]
  | first _ ih => exact ih
  | connected _ _ _ ih ih' =>
      rw [Condition.tests_append, Condition.tests_append, hcons, hcons, ih, ih']
  | omitted _ t ih =>
      rw [Condition.tests_append, Condition.tests_append, ih]
      rfl

/-- An item ends with a test or a closing parenthesis, and so does a sequence. -/
theorem exists_concat (h : Completes shape calls pieces) :
    ∃ front last, pieces = front ++ [last] ∧ last.ends = true := by
  induction h with
  | test t => exact ⟨[], _, rfl, rfl⟩
  | @group _ pieces _ _ => exact ⟨.opening :: pieces, .closing, rfl, rfl⟩
  | first _ ih => exact ih
  | @connected _ _ pieces _ connective _ _ _ _ ih' =>
      obtain ⟨front, last, rfl, hlast⟩ := ih'
      exact ⟨pieces ++ connective :: front, last, by simp, hlast⟩
  | @omitted _ pieces _ t _ => exact ⟨pieces ++ [.and], .test t, by simp, rfl⟩

theorem needsAnd (h : Completes shape calls pieces) (c : Condition τ) :
    Condition.needsAnd (c ++ pieces) = true := by
  obtain ⟨front, last, rfl, hlast⟩ := h.exists_concat
  rw [← List.append_assoc, Condition.needsAnd_concat, hlast]

/-- Where a test may stand, the calls put their pieces behind the condition. -/
theorem foldl_extend (h : Completes shape calls pieces) {c : Condition τ}
    (hc : c.needsAnd = false) : calls.foldl Condition.extend c = c ++ pieces := by
  induction h generalizing c with
  | test t => simp [Condition.extend, Condition.addTest, Condition.connected, hc]
  | @group calls _ _ ih =>
      have hgroup := ih (c.needsAnd_concat .opening)
      calc List.foldl Condition.extend c (.opening :: (calls ++ [.closing]))
          = List.foldl Condition.extend (c ++ [.opening]) calls ++ [.closing] := by
            rw [List.foldl_cons, List.foldl_append]
            rfl
        _ = c ++ .opening :: (_ ++ [.closing]) := by
            rw [hgroup]
            simp
  | first _ ih => exact ih hc
  | @connected _ calls' pieces pieces' connective hconnective _ _ ih ih' =>
      have hitem : calls'.foldl Condition.extend (c ++ pieces ++ [connective]) =
          c ++ pieces ++ [connective] ++ pieces' := by
        refine ih' ?_
        rw [Condition.needsAnd_concat]
        rcases hconnective with rfl | rfl <;> rfl
      have hpiece : Condition.extend (c ++ pieces) connective = c ++ pieces ++ [connective] := by
        rcases hconnective with rfl | rfl <;> rfl
      rw [List.foldl_append, ih hc, List.foldl_cons, hpiece, hitem]
      simp
  | @omitted _ pieces h t ih =>
      rw [List.foldl_append, ih hc]
      simp [Condition.extend, Condition.addTest, Condition.connected, h.needsAnd c]

/-- What the calls come to is a condition of the grammar. -/
theorem exists_derives {calls pieces : List (Piece Check)}
    (h : Completes shape calls pieces) :
    match shape with
    | .item => ∃ f, Derives .single pieces f
    | .sequence => ∃ f, Derives .alternatives pieces f := by
  induction h with
  | test c => exact ⟨_, .check c⟩
  | group _ ih =>
      obtain ⟨f, hf⟩ := ih
      exact ⟨f, .group hf⟩
  | first _ ih =>
      obtain ⟨f, hf⟩ := ih
      exact ⟨f, .only (.alone hf)⟩
  | connected hconnective _ _ ih ih' =>
      obtain ⟨f, hf⟩ := ih
      obtain ⟨f', hf'⟩ := ih'
      rcases hconnective with rfl | rfl
      · exact hf.exists_and hf'
      · exact ⟨_, .or hf (.alone hf')⟩
  | omitted _ c ih =>
      obtain ⟨f, hf⟩ := ih
      exact hf.exists_and (.check c)

end Completes

end RelationalMapper
