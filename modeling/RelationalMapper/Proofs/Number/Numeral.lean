import Mathlib.Algebra.Group.Nat.Defs
import RelationalMapper.Number.Decimal

/-! # Numerals read back

The characters that are written for digits have their values again when they are read, by each of the
readers: decimal digits in front of any text that begins with no digit, and hexadecimal digits that are
the whole text. -/

namespace RelationalMapper

open Number

/-! ## Text that loses nothing -/

theorem Text.trimBy_eq_self {blank : Char → Bool} {text : List Char}
    (h : ∀ c ∈ text, blank c = false) : Text.trimBy blank text = text := by
  have hdrop : ∀ s : List Char, (∀ c ∈ s, blank c = false) → s.dropWhile blank = s := by
    intro s hs
    cases s with
    | nil => rfl
    | cons c s => simp [hs c List.mem_cons_self]
  have hreverse : ∀ c ∈ text.reverse, blank c = false := fun c hc => h c (List.mem_reverse.mp hc)
  rw [Text.trimBy, hdrop text h, hdrop _ hreverse, List.reverse_reverse]

namespace Number

/-! ## Digits -/

theorem digitValue?_digitChar {d : Nat} (h : d < 10) :
    Text.digitValue? (digitChar d) = some d := by
  have key : ∀ d < 10, Text.digitValue? (digitChar d) = some d := by decide
  exact key d h

theorem asciiDigit?_digitChar {d : Nat} (h : d < 10) :
    Text.asciiDigit? (digitChar d) = some d := by
  have key : ∀ d < 10, Text.asciiDigit? (digitChar d) = some d := by decide
  exact key d h

theorem hexDigit?_digitChar {d : Nat} (h : d < 16) : hexDigit? (digitChar d) = some d := by
  have key : ∀ d < 16, hexDigit? (digitChar d) = some d := by decide
  exact key d h

theorem mem_natChars {n : Nat} {c : Char} (h : c ∈ natChars n) : ∃ d < 10, c = digitChar d := by
  obtain ⟨d, hd, rfl⟩ := List.mem_map.mp h
  exact ⟨d, digits_lt (by decide) n d hd, rfl⟩

theorem digits_ne_nil (base n : Nat) : digits base n ≠ [] := by
  by_cases h : 2 ≤ base ∧ base ≤ n
  · simp [digits_of_le h.1 h.2]
  · simp [digits_of_not_le h]

theorem length_natChars (n : Nat) : (natChars n).length = (digits 10 n).length := List.length_map _

/-- A number below a power of the base has at most as many digits. -/
theorem length_digits_le {base : Nat} (hb : 2 ≤ base) {n k : Nat} (h : n < base ^ (k + 1)) :
    (digits base n).length ≤ k + 1 := by
  induction k generalizing n with
  | zero =>
      rw [Nat.zero_add, Nat.pow_one] at h
      simp [digits_of_not_le (show ¬(2 ≤ base ∧ base ≤ n) by omega)]
  | succ k ih =>
      by_cases hn : base ≤ n
      · have hquotient : n / base < base ^ (k + 1) := by
          rw [Nat.div_lt_iff_lt_mul (by omega), ← Nat.pow_succ]
          exact h
        rw [digits_of_le hb hn, List.length_append]
        exact Nat.succ_le_succ (ih hquotient)
      · rw [digits_of_not_le (by omega), List.length_singleton]
        omega

theorem foldl_digits (base : Nat) (ds : List Nat) (n : Nat) :
    ds.foldl (fun n d => n * base + d) n = n * base ^ ds.length + ofDigits base ds := by
  induction ds generalizing n with
  | nil => simp [ofDigits]
  | cons d ds ih =>
      have hcons : ofDigits base (d :: ds) = d * base ^ ds.length + ofDigits base ds := by
        rw [ofDigits, List.foldl_cons, ih, Nat.zero_mul, Nat.zero_add]
      rw [List.foldl_cons, ih, hcons, List.length_cons, Nat.pow_succ, Nat.add_mul, Nat.mul_assoc,
        Nat.mul_comm base, Nat.add_assoc]

theorem ofDigits_cons (base d : Nat) (ds : List Nat) :
    ofDigits base (d :: ds) = d * base ^ ds.length + ofDigits base ds := by
  rw [ofDigits, List.foldl_cons, foldl_digits, Nat.zero_mul, Nat.zero_add]

theorem ofDigits_zeros_append (base k : Nat) (ds : List Nat) :
    ofDigits base (List.replicate k 0 ++ ds) = ofDigits base ds := by
  induction k with
  | zero => rfl
  | succ k ih => rw [List.replicate_succ, List.cons_append, ofDigits_cons, ih, Nat.zero_mul,
      Nat.zero_add]

/-! ## Fixed width -/

/-- The digits of a numeral that is filled up with zeros. -/
def paddedDigits (base width n : Nat) : List Nat :=
  List.replicate (width - (digits base n).length) 0 ++ digits base n

theorem padLeft_eq_map (base width n : Nat) :
    padLeft width ((digits base n).map digitChar) = (paddedDigits base width n).map digitChar := by
  simp only [padLeft, paddedDigits, List.length_map, List.map_append, List.map_replicate]
  rfl

theorem ofDigits_paddedDigits (base width n : Nat) :
    ofDigits base (paddedDigits base width n) = n := by
  rw [paddedDigits, ofDigits_zeros_append, ofDigits_digits]

theorem paddedDigits_lt {base : Nat} (hb : 2 ≤ base) (width n : Nat) :
    ∀ d ∈ paddedDigits base width n, d < base := by
  intro d hd
  rcases List.mem_append.mp hd with hd | hd
  · rw [(List.mem_replicate.mp hd).2]
    omega
  · exact digits_lt hb n d hd

theorem length_paddedDigits {base : Nat} (hb : 2 ≤ base) {width n : Nat}
    (h : n < base ^ (width + 1)) : (paddedDigits base (width + 1) n).length = width + 1 := by
  have hlength := length_digits_le hb h
  rw [paddedDigits, List.length_append, List.length_replicate]
  omega

/-! ## Runs of digits -/

theorem readDigits_append {ds : List Nat} (hds : ∀ d ∈ ds, d < 10) {rest : List Char}
    (hrest : ∀ c ∈ rest.head?, Text.digitValue? c = none) :
    Decimal.readDigits (ds.map digitChar ++ rest) = (ds, rest) := by
  induction ds with
  | nil =>
      cases rest with
      | nil => rfl
      | cons c rest => simp [Decimal.readDigits, hrest c rfl]
  | cons d ds ih =>
      have htail := ih fun d hd => hds d (List.mem_cons_of_mem _ hd)
      simp [Decimal.readDigits, digitValue?_digitChar (hds d List.mem_cons_self), htail]

theorem readDigits_map {ds : List Nat} (hds : ∀ d ∈ ds, d < 10) :
    Decimal.readDigits (ds.map digitChar) = (ds, []) := by
  rw [← List.append_nil (ds.map digitChar), readDigits_append hds (by simp)]

theorem readDigits_natChars (n : Nat) : Decimal.readDigits (natChars n) = (digits 10 n, []) :=
  readDigits_map (digits_lt (by decide) n)

/-- Digits without anything between them are a numeral. -/
theorem separatedDigits?_map {digit? : Char → Option Nat} {ds : List Nat} (hne : ds ≠ [])
    (hds : ∀ d ∈ ds, digit? (digitChar d) = some d) (hmark : digit? '_' = none) :
    separatedDigits? digit? (ds.map digitChar) = some ds := by
  have hrun : digitRun? digit? (ds.map digitChar) = some (ds, []) := by
    induction ds with
    | nil => contradiction
    | cons d ds ih =>
        have hd := hds d List.mem_cons_self
        cases ds with
        | nil => simp [digitRun?, hd]
        | cons d' ds =>
            have hd' := hds d' (List.mem_cons_of_mem _ List.mem_cons_self)
            have htail := ih (by simp) fun d hd => hds d (List.mem_cons_of_mem _ hd)
            rw [List.map_cons, List.map_cons, digitRun?.eq_def]
            simp only [hd, Option.bind_eq_bind, Option.bind_some]
            split
            · contradiction
            · rename_i heq
              rw [(List.cons.inj heq).1, hmark] at hd'
              contradiction
            · rename_i heq
              obtain ⟨rfl, rfl⟩ := List.cons.inj heq
              rw [hd', Option.isSome_some, if_pos rfl, ← List.map_cons, htail]
              rfl
  rw [separatedDigits?, hrun]

end Number

end RelationalMapper
