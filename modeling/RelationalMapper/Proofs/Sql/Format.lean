import Mathlib.Data.List.Basic
import RelationalMapper.Proofs.Sql.Marker

/-! # Statements as format texts

A driver with `%s` markers reads the whole statement as a format text. What it reads are the
statement's own characters, with a directive for each marker. -/

namespace RelationalMapper.Sql

/-- A character of a format text, or a place for the next argument. -/
inductive FormatItem where
  | char (c : Char)
  | directive
  deriving Repr, DecidableEq, Inhabited

/-- Reads a format text from left to right: `%%` is a percent sign, `%s` a directive, and any other
percent sign is refused. -/
def readFormat : List Char → Option (List FormatItem)
  | [] => some []
  | '%' :: '%' :: rest => (readFormat rest).map (.char '%' :: ·)
  | '%' :: 's' :: rest => (readFormat rest).map (.directive :: ·)
  | c :: rest => if c = '%' then none else (readFormat rest).map (.char c :: ·)

/-- The character that a statement has where the format text has this item. -/
def FormatItem.shown : FormatItem → Char
  | char c => c
  | directive => '?'

namespace Token

/-- What a token is in a format text. -/
def formatItems (t : Token) : List FormatItem :=
  if t.kind = .marker then [.directive] else t.chars.map .char

theorem formatItems_of_ne {t : Token} (h : t.kind ≠ .marker) :
    t.formatItems = t.chars.map .char := if_neg h

theorem shown_formatItems {t : Token} (h : t.kind = .marker → t.chars = ['?']) :
    t.formatItems.map FormatItem.shown = t.chars := by
  by_cases hk : t.kind = .marker
  · rw [formatItems, if_pos hk, h hk]
    rfl
  · rw [formatItems_of_ne hk, List.map_map]
    exact List.map_id' t.chars

end Token

theorem lexeme?_marker {c : Char} {rest after : List Char} {t : Token}
    (h : lexeme? c rest = some (t, after)) (hk : t.kind = .marker) : t.chars = ['?'] := by
  unfold lexeme? at h
  split at h
  case h_8 => simp at h; rw [← h.1]
  case h_9 => simp at h; rw [← h.1] at hk; contradiction
  case h_10 => contradiction
  all_goals
    obtain ⟨⟨body, rest⟩, -, heq⟩ := Option.map_eq_some_iff.mp h
    rw [← (Prod.mk.inj heq).1] at hk
    contradiction

/-- Every marker that the scanner finds is a question mark. -/
theorem scan_marker (sql : List Char) : ∀ t ∈ scan sql, t.kind = .marker → t.chars = ['?'] := by
  fun_induction scan sql with
  | case1 => simp
  | case2 c rest token after h ih =>
      intro t ht hk
      rcases List.mem_cons.mp ht with rfl | ht
      · exact lexeme?_marker h hk
      · exact ih t ht hk
  | case3 c rest h ih =>
      intro t ht hk
      unfold joinText at ht
      split at ht
      all_goals
        rename_i heq
        rcases List.mem_cons.mp ht with rfl | ht
        · contradiction
        · exact ih t (by simp_all) hk

theorem readFormat_cons {c : Char} {rest : List Char} (h : c ≠ '%') :
    readFormat (c :: rest) = (readFormat rest).map (.char c :: ·) := by
  rw [readFormat.eq_4]
  · rw [if_neg h]
  · rintro r rfl
    contradiction
  · rintro r rfl
    contradiction

theorem readFormat_doubled_append (s : List Char) {rest : List Char} {items : List FormatItem}
    (h : readFormat rest = some items) :
    readFormat (Text.doubled '%' s ++ rest) = some (s.map .char ++ items) := by
  induction s with
  | nil => exact h
  | cons c s ih =>
      by_cases hc : c = '%'
      · subst hc
        simp [Text.doubled, readFormat, ih]
      · rw [Text.doubled, if_neg hc, List.cons_append, readFormat_cons hc, ih]
        rfl

theorem restyled_of_ne {t : Token} (h : t.kind ≠ .marker) (placeholder : List Char) :
    restyled placeholder t = Text.doubled '%' t.chars := by
  unfold restyled
  split
  · contradiction
  · rfl

theorem readFormat_restyled_append (t : Token) {rest : List Char} {items : List FormatItem}
    (h : readFormat rest = some items) :
    readFormat (restyled ['%', 's'] t ++ rest) = some (t.formatItems ++ items) := by
  by_cases hk : t.kind = .marker
  · simp [restyled, Token.formatItems, hk, readFormat, h]
  · rw [restyled_of_ne hk, t.formatItems_of_ne hk]
    exact readFormat_doubled_append t.chars h

/-- The restyled text reads as the tokens of the statement, with a directive for each marker. -/
theorem readFormat_restyle (sql : List Char) :
    readFormat (restyle ['%', 's'] sql) = some ((scan sql).flatMap Token.formatItems) := by
  have key : ∀ tokens : List Token, readFormat (tokens.flatMap (restyled ['%', 's'])) =
      some (tokens.flatMap Token.formatItems) := by
    intro tokens
    induction tokens with
    | nil => rfl
    | cons t tokens ih =>
        rw [List.flatMap_cons, List.flatMap_cons]
        exact readFormat_restyled_append t ih
  exact key (scan sql)

theorem count_directive_formatItems (tokens : List Token) :
    (tokens.flatMap Token.formatItems).count .directive = tokens.countP (·.kind = .marker) := by
  induction tokens with
  | nil => rfl
  | cons t tokens ih =>
      have hone : t.formatItems.count .directive = if t.kind = .marker then 1 else 0 := by
        by_cases h : t.kind = .marker
        · simp [Token.formatItems, h]
        · simp [Token.formatItems, h, List.count_eq_zero]
      rw [List.flatMap_cons, List.count_append, hone, ih, List.countP_cons, Nat.add_comm]
      simp

end Sql

namespace Dialect

open Sql

theorem placeholder_eq (d : Dialect) : d.placeholder = questionMark ∨ d.placeholder = "%s" := by
  cases d <;> simp [placeholder]

theorem standardize_of_format {d : Dialect} (h : d.placeholder = "%s") (sql : String) :
    (d.standardize sql).toList = restyle ['%', 's'] sql.toList := by
  unfold standardize Sql.standardize
  rw [h]
  by_cases hs : sql = ""
  · simp [hs, restyle, scan]
  · rw [if_neg (by simp [hs, questionMark]), String.toList_ofList]
    rfl

theorem standardize_of_question {d : Dialect} (h : d.placeholder = questionMark) (sql : String) :
    d.standardize sql = sql := by
  unfold standardize Sql.standardize
  rw [if_pos (.inr h)]

/-- The statement that a driver takes a text for, with question marks where its parameters go. -/
def received (d : Dialect) (text : String) : Option String :=
  if d.placeholder = questionMark then some text
  else (readFormat text.toList).map fun items => String.ofList (items.map FormatItem.shown)

/-- A driver receives the statement that was standardized for it. -/
theorem received_standardize (d : Dialect) (sql : String) :
    d.received (d.standardize sql) = some sql := by
  rcases d.placeholder_eq with h | h
  · rw [standardize_of_question h, received, if_pos h]
  · have hshown : ((scan sql.toList).flatMap Token.formatItems).map FormatItem.shown
        = sql.toList := by
      rw [List.map_flatMap]
      conv_rhs => rw [← scan_flatMap_chars sql.toList]
      apply List.flatMap_congr
      intro t ht
      exact Token.shown_formatItems (scan_marker _ t ht)
    rw [received, if_neg (by simp [h, questionMark]), standardize_of_format h, readFormat_restyle]
    simp [hshown]

end Dialect

end RelationalMapper
