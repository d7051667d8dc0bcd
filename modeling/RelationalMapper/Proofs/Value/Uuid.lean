import RelationalMapper.Proofs.Number.Numeral
import RelationalMapper.Value.Uuid

/-! # Identifiers read back

The text of an identifier has its thirty-two digits in groups. A reader takes the hyphens out, finds
neither a scheme nor braces, and reads the number that was written. -/

namespace RelationalMapper

open Number

/-- A text without the first character of a pattern does not lose an occurrence of it. -/
theorem Text.without_eq_self {c : Char} (pattern : List Char) {text : List Char} (h : c ∉ text) :
    Text.without (c :: pattern) text = text := by
  induction text with
  | nil => rw [Text.without]
  | cons d text ih =>
      obtain ⟨hd, htext⟩ : c ≠ d ∧ c ∉ text := by simpa using h
      rw [Text.without, ih htext, if_neg]
      simp [hd]

namespace Uuid

/-- The digits of an identifier, without hyphens. -/
def hexDigits (u : Uuid) : List Nat := paddedDigits 16 32 u.value

theorem hexChars_eq (u : Uuid) : hexChars 32 u.value = u.hexDigits.map digitChar :=
  padLeft_eq_map 16 32 u.value

theorem hexDigits_lt (u : Uuid) : ∀ d ∈ u.hexDigits, d < 16 := paddedDigits_lt (by decide) 32 _

theorem length_hexDigits (u : Uuid) : u.hexDigits.length = 32 :=
  length_paddedDigits (by decide) u.value.isLt

theorem chars_subset (u : Uuid) {c : Char} (h : c ∈ u.chars) :
    c = '-' ∨ ∃ d < 16, c = digitChar d := by
  have hdigit : ∀ start count, c ∈ ((u.hexDigits.map digitChar).drop start).take count →
      ∃ d < 16, c = digitChar d := by
    intro start count hc
    obtain ⟨d, hd, rfl⟩ := List.mem_map.mp (List.mem_of_mem_drop (List.mem_of_mem_take hc))
    exact ⟨d, u.hexDigits_lt d hd, rfl⟩
  simp only [chars, hexChars_eq, List.mem_append, List.mem_cons] at h
  rcases h with (((h | h | h) | h | h) | h | h) | h | h
  all_goals first
    | exact .inl h
    | exact .inr (hdigit _ _ h)

/-- A reader finds no scheme, no brace and no blank. -/
theorem plain_of_mem_chars (u : Uuid) {c : Char} (h : c ∈ u.chars) :
    c ≠ 'u' ∧ isBrace c = false := by
  have key : ∀ d < 16, digitChar d ≠ 'u' ∧ isBrace (digitChar d) = false := by decide
  obtain rfl | ⟨d, hd, rfl⟩ := u.chars_subset h
  · decide
  · exact key d hd

theorem filter_chars (u : Uuid) : u.chars.filter (· ≠ '-') = u.hexDigits.map digitChar := by
  have hkeep : ∀ start count, (((u.hexDigits.map digitChar).drop start).take count).filter (· ≠ '-') =
      ((u.hexDigits.map digitChar).drop start).take count := by
    intro start count
    refine List.filter_eq_self.mpr fun c hc => ?_
    obtain ⟨d, hd, rfl⟩ := List.mem_map.mp (List.mem_of_mem_drop (List.mem_of_mem_take hc))
    have key : ∀ d < 16, digitChar d ≠ '-' := by decide
    exact decide_eq_true (key d (u.hexDigits_lt d hd))
  have hgroup : ∀ start count, ((u.hexDigits.map digitChar).drop start).take count ++
      (u.hexDigits.map digitChar).drop (start + count) = (u.hexDigits.map digitChar).drop start := by
    intro start count
    rw [← List.drop_drop, List.take_append_drop]
  have hlast : ((u.hexDigits.map digitChar).drop 20).take 12 =
      (u.hexDigits.map digitChar).drop 20 := by
    rw [List.take_of_length_le]
    simp [u.length_hexDigits]
  simp only [chars, hexChars_eq, List.filter_append, List.filter_cons, hkeep]
  simp only [ne_eq, not_true_eq_false, decide_false, Bool.false_eq_true, if_false,
    List.append_assoc]
  rw [hlast, hgroup 16 4, hgroup 12 4, hgroup 8 4, hgroup 0 8]
  rfl

theorem bareChars_chars (u : Uuid) : bareChars u.chars = u.hexDigits.map digitChar := by
  have hscheme : 'u' ∉ u.chars := fun h => (u.plain_of_mem_chars h).1 rfl
  have hurn : Text.without "urn:".toList u.chars = u.chars := Text.without_eq_self _ hscheme
  have huuid : Text.without "uuid:".toList u.chars = u.chars := Text.without_eq_self _ hscheme
  have hbraces : Text.trimBy isBrace u.chars = u.chars :=
    Text.trimBy_eq_self fun c hc => (u.plain_of_mem_chars hc).2
  unfold bareChars
  rw [hurn, huuid]
  exact (congrArg _ hbraces).trans u.filter_chars

theorem dropBase_eq_self {input : List Char} (hsmall : 'x' ∉ input) (hlarge : 'X' ∉ input) :
    dropBase input = input := by
  unfold dropBase
  split
  · simp at hsmall
  · simp at hlarge
  · simp at hsmall
  · simp at hlarge
  · rfl

/-- Nothing stands before the digits: no sign, and no mark of a base behind the first of them. -/
theorem readHexNumber?_hexDigits (u : Uuid) :
    readHexNumber? (u.hexDigits.map digitChar) = some (u.value : Nat) := by
  have hdigits := u.hexDigits_lt
  obtain ⟨d, ds, hds⟩ : ∃ d ds, u.hexDigits = d :: ds :=
    List.exists_cons_of_length_pos (by rw [length_hexDigits]; decide)
  have hblank : Text.trimBy Text.isNumeralBlank (u.hexDigits.map digitChar) =
      u.hexDigits.map digitChar := by
    refine Text.trimBy_eq_self fun c hc => ?_
    obtain ⟨d, hd, rfl⟩ := List.mem_map.mp hc
    have key : ∀ d < 16, Text.isNumeralBlank (digitChar d) = false := by decide
    exact key d (hdigits d hd)
  have hsign : (u.hexDigits.map digitChar).head? ≠ some '+' := by
    have key : ∀ d < 16, digitChar d ≠ '+' := by decide
    rw [hds]
    simpa using key d (hdigits d (by simp [hds]))
  have hbase : dropBase (u.hexDigits.map digitChar) = u.hexDigits.map digitChar := by
    have key : ∀ d < 16, digitChar d ≠ 'x' ∧ digitChar d ≠ 'X' := by decide
    refine dropBase_eq_self (fun hx => ?_) fun hx => ?_
    all_goals obtain ⟨d, hd, heq⟩ := List.mem_map.mp hx
    · exact (key d (hdigits d hd)).1 heq
    · exact (key d (hdigits d hd)).2 heq
  have hread : separatedDigits? digit? (u.hexDigits.map digitChar) = some u.hexDigits :=
    separatedDigits?_map (by simp [hds])
      (fun d hd => by rw [digit?, hexDigit?_digitChar (hdigits d hd)]; rfl) (by decide)
  simp only [readHexNumber?, hblank, if_neg hsign, hbase, hread, Option.map_some]
  rw [hexDigits, ofDigits_paddedDigits]

/-- The text of an identifier names this identifier. -/
theorem ofText?_text (u : Uuid) : ofText? u.text = some u := by
  have hlength : (u.hexDigits.map digitChar).length = 32 := by
    rw [List.length_map, length_hexDigits]
  rw [ofText?, text, String.toList_ofList, ofChars?]
  simp only [bareChars_chars, if_pos hlength, readHexNumber?_hexDigits]
  exact dif_pos u.value.isLt

end Uuid

end RelationalMapper
