import Mathlib.Data.Rat.Floor
import RelationalMapper.Number.Binary

/-! # Numbers as rationals

The rational that a finite number stands for, be it written in binary or in decimal. What is left of a
number when its fraction is dropped is the whole part of its rational: whole numbers stay what they are,
and everything between minus one and one becomes zero. -/

namespace RelationalMapper.Number

/-! ## Whole parts -/

/-- A rational without its fraction. -/
def wholePart (q : ℚ) : ℤ := if 0 ≤ q then ⌊q⌋ else ⌈q⌉

theorem wholePart_of_nonneg {q : ℚ} (h : 0 ≤ q) : wholePart q = ⌊q⌋ := if_pos h

theorem wholePart_neg (q : ℚ) : wholePart (-q) = -wholePart q := by
  rcases lt_trichotomy q 0 with h | rfl | h
  · rw [wholePart, wholePart, if_pos (by linarith), if_neg (not_le.mpr h), Int.floor_neg]
  · simp [wholePart]
  · rw [wholePart, wholePart, if_neg (by linarith), if_pos h.le, Int.ceil_neg]

theorem wholePart_intCast (n : ℤ) : wholePart n = n := by
  unfold wholePart
  split
  · exact Int.floor_intCast n
  · exact Int.ceil_intCast n

/-- The whole part is the number itself just if the number is whole. -/
theorem cast_wholePart_eq_iff {q : ℚ} : (wholePart q : ℚ) = q ↔ ∃ n : ℤ, (n : ℚ) = q := by
  constructor
  · intro h
    exact ⟨wholePart q, h⟩
  · rintro ⟨n, rfl⟩
    rw [wholePart_intCast]

theorem wholePart_eq_zero_iff {q : ℚ} : wholePart q = 0 ↔ |q| < 1 := by
  unfold wholePart
  split
  · rename_i h
    rw [Int.floor_eq_zero_iff, Set.mem_Ico, abs_of_nonneg h]
    exact and_iff_right h
  · rename_i h
    have hneg : q < 0 := not_le.mp h
    rw [Int.ceil_eq_zero_iff, Set.mem_Ioc, abs_of_neg hneg, and_iff_left hneg.le, neg_lt]

/-! ## Signs and powers -/

/-- A magnitude with its sign. -/
def signedRational (negative : Bool) (q : ℚ) : ℚ := if negative then -q else q

/-- Dropping the fraction of a quotient is dividing without remainder, whatever the sign. -/
theorem wholePart_signedRational_div (negative : Bool) (num den : ℕ) :
    wholePart (signedRational negative (num / den)) = Decimal.signed negative (num / den) := by
  have hquotient : wholePart ((num : ℚ) / den) = (num / den : ℕ) := by
    rw [wholePart_of_nonneg (by positivity), Rat.floor_natCast_div_natCast, Int.natCast_ediv]
  cases negative with
  | true => simp [signedRational, Decimal.signed, wholePart_neg, hquotient]
  | false => simp [signedRational, Decimal.signed, hquotient]

/-- A number written with a power is a quotient of natural numbers. -/
theorem mul_zpow_eq_div {base : ℕ} (hbase : base ≠ 0) (m : ℕ) (e : ℤ) :
    (m : ℚ) * (base : ℚ) ^ e = ((m * base ^ e.toNat : ℕ) : ℚ) / ((base ^ (-e).toNat : ℕ) : ℚ) := by
  have hne : (base : ℚ) ≠ 0 := Nat.cast_ne_zero.mpr hbase
  obtain ⟨n, rfl | rfl⟩ := e.eq_nat_or_neg
  · simp
  · simp [zpow_neg, div_eq_mul_inv]

/-! ## The two notations -/

/-- The rational that a number in binary stands for, if it is finite. -/
def Binary.rational? : Binary → Option ℚ
  | .finite negative mantissa exponent => some (signedRational negative (mantissa * 2 ^ exponent))
  | _ => none

/-- The rational that a decimal stands for, if it is finite. -/
def Decimal.rational? : Decimal → Option ℚ
  | .finite negative coefficient exponent =>
    some (signedRational negative (coefficient * 10 ^ exponent))
  | _ => none

theorem Binary.truncate?_eq {x : Binary} {q : ℚ} (h : x.rational? = some q) :
    x.truncate? = some (wholePart q) := by
  cases x with
  | finite negative m e =>
      obtain rfl := Option.some.inj h
      have hquotient := mul_zpow_eq_div (show 2 ≠ 0 by decide) m e
      rw [Nat.cast_ofNat] at hquotient
      rw [hquotient, wholePart_signedRational_div]
      rfl
  | infinite | nan => contradiction

/-- The powers of ten that are not computed are those that the whole part does not need. -/
theorem Decimal.wholeMagnitude_eq (coefficient : ℕ) (exponent : ℤ) :
    wholeMagnitude coefficient exponent =
      coefficient * 10 ^ exponent.toNat / 10 ^ (-exponent).toNat := by
  cases exponent with
  | ofNat e =>
      rw [wholeMagnitude_ofNat]
      simp
  | negSucc e =>
      rw [wholeMagnitude_negSucc]
      simp [Int.neg_negSucc]

theorem Decimal.truncate?_eq {d : Decimal} {q : ℚ} (h : d.rational? = some q) :
    d.truncate? = some (wholePart q) := by
  cases d with
  | finite negative coefficient exponent =>
      obtain rfl := Option.some.inj h
      have hquotient := mul_zpow_eq_div (show 10 ≠ 0 by decide) coefficient exponent
      rw [Nat.cast_ofNat] at hquotient
      rw [hquotient, wholePart_signedRational_div, truncate?, wholeMagnitude_eq]
  | infinite | nan => contradiction

end RelationalMapper.Number
