import Mathlib.Algebra.Group.Nat.Defs
import RelationalMapper.Number.Binary

/-! # Rounding what needs none

A number of a format is the nearest number of that format to itself: its last kept place does not lie
above its last bit, so that nothing is rounded, and the factors of two that come with a lower place are
taken out again. -/

namespace RelationalMapper.Number

theorem roundHalfEven_mul {den : Nat} (hden : 0 < den) (q : Nat) :
    roundHalfEven (den * q) den = q := by
  unfold roundHalfEven
  rw [Nat.mul_div_cancel_left q hden, Nat.mul_mod_right]
  simp only
  split
  · omega
  · rfl

theorem oddPart_of_odd {m : Nat} (e : Int) (h : m % 2 = 1) : oddPart m e = (m, e) := by
  rw [oddPart, dif_neg (by omega)]

/-- Factors of two move into the exponent. -/
theorem oddPart_mul_two_pow {m : Nat} (h : m % 2 = 1) (e : Int) (k : Nat) :
    oddPart (m * 2 ^ k) e = (m, e + k) := by
  induction k generalizing e with
  | zero => simp [oddPart_of_odd e h]
  | succ k ih =>
      have hsplit : m * 2 ^ (k + 1) = 2 * (m * 2 ^ k) := by
        rw [Nat.pow_succ, ← Nat.mul_assoc, Nat.mul_comm]
      have hpos : 0 < m * 2 ^ k := Nat.mul_pos (by omega) (Nat.two_pow_pos k)
      rw [hsplit, oddPart, dif_pos (by omega), Nat.mul_div_cancel_left _ (by decide), ih]
      congr 1
      omega

theorem log2_mul_two_pow {m : Nat} (h : m ≠ 0) (k : Nat) : (m * 2 ^ k).log2 = m.log2 + k := by
  induction k with
  | zero => simp
  | succ k ih =>
      have hpos : 0 < m * 2 ^ k := Nat.mul_pos (Nat.pos_of_ne_zero h) (Nat.two_pow_pos k)
      rw [Nat.pow_succ, ← Nat.mul_assoc, Nat.mul_comm, Nat.log2_two_mul (by omega), ih,
        Nat.add_assoc]

theorem binaryLength_of_le {num den : Nat} {k : Int} (hlogs : (num.log2 : Int) - den.log2 = k)
    (h : den * 2 ^ k.toNat ≤ num * 2 ^ (-k).toNat) : binaryLength num den = k + 1 := by
  subst hlogs
  exact if_neg (Nat.not_lt.mpr h)

/-- The length of a number is that of its mantissa, moved by the exponent. -/
theorem binaryLength_fraction {m : Nat} (h : m ≠ 0) (e : Int) :
    binaryLength (Binary.fraction m e).1 (Binary.fraction m e).2 = m.log2 + e + 1 := by
  have hlow : 2 ^ m.log2 ≤ m := Nat.log2_self_le h
  have hlogs : ((m * 2 ^ e.toNat).log2 : Int) - ((2 ^ (-e).toNat).log2 : Int) = m.log2 + e := by
    rw [log2_mul_two_pow h, Nat.log2_two_pow]
    omega
  have hnotBelow : 2 ^ (-e).toNat * 2 ^ ((m.log2 : Int) + e).toNat ≤
      m * 2 ^ e.toNat * 2 ^ (-((m.log2 : Int) + e)).toNat := by
    calc 2 ^ (-e).toNat * 2 ^ ((m.log2 : Int) + e).toNat
        = 2 ^ m.log2 * (2 ^ e.toNat * 2 ^ (-((m.log2 : Int) + e)).toNat) := by
          rw [← Nat.pow_add, ← Nat.pow_add, ← Nat.pow_add]
          congr 1
          omega
      _ ≤ m * (2 ^ e.toNat * 2 ^ (-((m.log2 : Int) + e)).toNat) := Nat.mul_le_mul_right _ hlow
      _ = m * 2 ^ e.toNat * 2 ^ (-((m.log2 : Int) + e)).toNat := (Nat.mul_assoc _ _ _).symm
  exact binaryLength_of_le hlogs hnotBelow

namespace FloatFormat

variable {format : FloatFormat} {m : Nat} {e : Int}

/-- The last kept place of a number of the format is not above its last bit. -/
theorem lastPlace_le (hm : m ≠ 0) (hbits : m < 2 ^ format.precision) (he : format.minExponent ≤ e) :
    format.lastPlace (Binary.fraction m e).1 (Binary.fraction m e).2 ≤ e := by
  have hlog : m.log2 < format.precision := (Nat.log2_lt hm).mpr hbits
  unfold lastPlace
  rw [binaryLength_fraction hm]
  omega

/-- In units of a place that is not above its last bit a number is a whole number. -/
theorem unitsOf_fraction {k : Nat}
    (hplace : format.lastPlace (Binary.fraction m e).1 (Binary.fraction m e).2 + k = e) :
    format.unitsOf (Binary.fraction m e).1 (Binary.fraction m e).2 = m * 2 ^ k := by
  unfold unitsOf
  generalize format.lastPlace _ _ = place at hplace
  have hscaled : m * 2 ^ e.toNat * 2 ^ (-place).toNat =
      2 ^ (-e).toNat * 2 ^ place.toNat * (m * 2 ^ k) := by
    calc m * 2 ^ e.toNat * 2 ^ (-place).toNat
        = m * 2 ^ (e.toNat + (-place).toNat) := by rw [Nat.mul_assoc, ← Nat.pow_add]
      _ = m * 2 ^ ((-e).toNat + place.toNat + k) := by
          congr 2
          omega
      _ = 2 ^ (-e).toNat * 2 ^ place.toNat * (m * 2 ^ k) := by
          rw [Nat.pow_add, Nat.pow_add, Nat.mul_left_comm]
  simp only [Binary.fraction, Nat.pow_eq]
  rw [hscaled, roundHalfEven_mul (Nat.mul_pos (Nat.two_pow_pos _) (Nat.two_pow_pos _))]

/-- Rounding to a format leaves its numbers as they are. -/
theorem round_fraction {negative : Bool} (h : format.Holds (.finite negative m e)) :
    format.round negative (Binary.fraction m e).1 (Binary.fraction m e).2 =
      .finite negative m e := by
  obtain ⟨rfl, rfl⟩ | ⟨hodd, hbits, he, htop⟩ := h
  · have hunits : format.unitsOf (Binary.fraction 0 0).1 (Binary.fraction 0 0).2 = 0 := by
      simp [unitsOf, Binary.fraction, roundHalfEven]
    rw [round, hunits, pack, if_pos rfl]
  · have hm : m ≠ 0 := by
      rintro rfl
      contradiction
    obtain ⟨k, hk⟩ := Int.le.dest (lastPlace_le hm hbits he)
    have hunits : m * 2 ^ k ≠ 0 := Nat.mul_ne_zero hm (Nat.ne_of_gt (Nat.two_pow_pos k))
    rw [round, unitsOf_fraction hk, pack, if_neg hunits, oddPart_mul_two_pow hodd, hk]
    simp only
    rw [if_pos htop]

end FloatFormat

namespace Floating

variable {format : FloatFormat}

theorem ofBinary_value (x : Floating format) : ofBinary x.value = x := by
  obtain ⟨value, holds⟩ := x
  cases value with
  | finite negative mantissa exponent =>
      unfold ofBinary ofFraction
      simp only
      rw [dif_pos (Binary.fraction_pos mantissa exponent)]
      congr 1
      exact FloatFormat.round_fraction holds
  | infinite negative => rfl
  | nan => rfl

/-- A single-precision number survives as a double-precision one. -/
theorem toSingle_toDouble (x : Single) : x.toDouble.toSingle = x := x.ofBinary_value

end Floating

end RelationalMapper.Number
