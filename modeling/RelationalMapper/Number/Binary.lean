import RelationalMapper.Number.Decimal

/-!
Binary floating-point numbers. A finite number is `± mantissa · 2 ^ exponent` with an odd mantissa,
or zero, so that one value has one form whatever its format; a format says how many bits the
mantissa may have and how far the exponent may go. Main statement: rounding to a format gives a
number of that format, which is what lets `Floating` carry the format in its type.
-/

namespace RelationalMapper.Number

inductive Binary where
  | finite (negative : Bool) (mantissa : Nat) (exponent : Int)
  | infinite (negative : Bool)
  | nan
  deriving Repr, DecidableEq, Inhabited

inductive FloatFormat where
  | half
  | single
  | double
  | extended
  deriving Repr, DecidableEq, Inhabited

namespace FloatFormat

/-- The number of significant bits. -/
def precision : FloatFormat → Nat
  | half => 11
  | single => 24
  | double => 53
  | extended => 64

/-- The exponent of the last bit of the smallest numbers. -/
def minExponent : FloatFormat → Int
  | half => -24
  | single => -149
  | double => -1074
  | extended => -16445

/-- Finite numbers lie below two to this power. -/
def ceiling : FloatFormat → Int
  | half => 16
  | single => 128
  | double => 1024
  | extended => 16384

/-- The number is written in its one form and fits the format. -/
def Holds (format : FloatFormat) : Binary → Prop
  | .finite _ mantissa exponent =>
    (mantissa = 0 ∧ exponent = 0) ∨
      (mantissa % 2 = 1 ∧ mantissa < Nat.pow 2 format.precision ∧ format.minExponent ≤ exponent ∧
        mantissa.log2 + exponent < format.ceiling)
  | .infinite _ => True
  | .nan => True

instance (format : FloatFormat) (b : Binary) : Decidable (format.Holds b) := by
  cases b <;> unfold Holds <;> infer_instance

end FloatFormat

/-! ### Rounding -/

/-- The nearest natural number to a quotient, a tie going to the even one. -/
def roundHalfEven (num den : Nat) : Nat :=
  let q := num / den
  let r := num % den
  if den < 2 * r ∨ (2 * r = den ∧ q % 2 = 1) then q + 1 else q

theorem roundHalfEven_le {num den bound : Nat} (hden : 0 < den) (h : num ≤ den * bound) :
    roundHalfEven num den ≤ bound := by
  have hq : num / den ≤ bound := by
    rw [Nat.div_le_iff_le_mul_add_pred hden]; omega
  unfold roundHalfEven
  simp only
  split
  · rename_i hr
    have hpos : 0 < num % den := by omega
    have hdm := Nat.div_add_mod num den
    rcases Nat.lt_or_eq_of_le hq with hlt | heq
    · omega
    · rw [heq] at hdm; omega
  · exact hq

/-- Takes the factors of two out of a mantissa. -/
def oddPart (mantissa : Nat) (exponent : Int) : Nat × Int :=
  if _h : mantissa ≠ 0 ∧ mantissa % 2 = 0 then oddPart (mantissa / 2) (exponent + 1)
  else (mantissa, exponent)
  termination_by mantissa
  decreasing_by omega

theorem oddPart_odd {m : Nat} (e : Int) (h : m ≠ 0) : (oddPart m e).1 % 2 = 1 := by
  fun_induction oddPart m e with
  | case1 m e hm ih => exact ih (by omega)
  | case2 m e hm => simp only; omega

theorem oddPart_le (m : Nat) (e : Int) : (oddPart m e).1 ≤ m ∧ e ≤ (oddPart m e).2 := by
  fun_induction oddPart m e with
  | case1 m e hm ih => constructor <;> omega
  | case2 m e hm => simp

/-- The least power of two above `num / den`. -/
def binaryLength (num den : Nat) : Int :=
  let k : Int := num.log2 - den.log2
  if num * Nat.pow 2 (-k).toNat < den * Nat.pow 2 k.toNat then k else k + 1

theorem lt_binaryLength {num den : Nat} (hden : 0 < den) :
    num * Nat.pow 2 (-binaryLength num den).toNat < den * Nat.pow 2 (binaryLength num den).toNat := by
  unfold binaryLength
  simp only
  split
  · assumption
  · have hn : num < 2 ^ (num.log2 + 1) := Nat.lt_log2_self
    have hd : 2 ^ den.log2 ≤ den := Nat.log2_self_le (by omega)
    generalize num.log2 = a at *
    generalize den.log2 = b at *
    calc num * 2 ^ (-((a : Int) - b + 1)).toNat
        < 2 ^ (a + 1) * 2 ^ (-((a : Int) - b + 1)).toNat :=
          Nat.mul_lt_mul_of_pos_right hn (Nat.two_pow_pos _)
      _ = 2 ^ b * 2 ^ ((a : Int) - b + 1).toNat := by
          rw [← Nat.pow_add, ← Nat.pow_add]; congr 1; omega
      _ ≤ den * 2 ^ ((a : Int) - b + 1).toNat := Nat.mul_le_mul_right _ hd

/-- A bound in units of `2 ^ k` is a bound in units of `2 ^ e` with the bits between them. -/
theorem rescale_le {num den : Nat} {k e : Int} {bits : Nat}
    (h : num * Nat.pow 2 (-k).toNat ≤ den * Nat.pow 2 k.toNat) (hk : k ≤ e + bits) :
    num * Nat.pow 2 (-e).toNat ≤ den * Nat.pow 2 e.toNat * Nat.pow 2 bits := by
  simp only [Nat.pow_eq] at h ⊢
  have h1 : num * 2 ^ (-k).toNat * 2 ^ (-e).toNat ≤ den * 2 ^ k.toNat * 2 ^ (-e).toNat :=
    Nat.mul_le_mul_right _ h
  have h2 : den * 2 ^ k.toNat * 2 ^ (-e).toNat
      ≤ den * 2 ^ e.toNat * 2 ^ bits * 2 ^ (-k).toNat := by
    rw [Nat.mul_assoc, ← Nat.pow_add, Nat.mul_assoc, Nat.mul_assoc, ← Nat.pow_add, ← Nat.pow_add]
    exact Nat.mul_le_mul_left _ (Nat.pow_le_pow_right (by omega) (by omega))
  have h3 : num * 2 ^ (-e).toNat * 2 ^ (-k).toNat
      ≤ den * 2 ^ e.toNat * 2 ^ bits * 2 ^ (-k).toNat := by
    rw [Nat.mul_right_comm]; exact Nat.le_trans h1 h2
  exact Nat.le_of_mul_le_mul_right h3 (Nat.two_pow_pos _)

namespace FloatFormat

/-- The exponent of the last bit that the format keeps of `num / den`. -/
def lastPlace (format : FloatFormat) (num den : Nat) : Int :=
  max format.minExponent (binaryLength num den - format.precision)

/-- How many units of the last kept place make up `num / den`. -/
def unitsOf (format : FloatFormat) (num den : Nat) : Nat :=
  let e := format.lastPlace num den
  roundHalfEven (num * Nat.pow 2 (-e).toNat) (den * Nat.pow 2 e.toNat)

/-- The one form of `± mantissa · 2 ^ exponent`, or an infinity beyond the format's ceiling. -/
def pack (format : FloatFormat) (negative : Bool) (mantissa : Nat) (exponent : Int) : Binary :=
  if mantissa = 0 then .finite negative 0 0
  else
    let (m, e) := oddPart mantissa exponent
    if m.log2 + e < format.ceiling then .finite negative m e else .infinite negative

/-- The number of the format nearest to `± num / den`, a tie going to the even mantissa. -/
def round (format : FloatFormat) (negative : Bool) (num den : Nat) : Binary :=
  format.pack negative (format.unitsOf num den) (format.lastPlace num den)

theorem unitsOf_le (format : FloatFormat) {num den : Nat} (hden : 0 < den) :
    format.unitsOf num den ≤ Nat.pow 2 format.precision := by
  apply roundHalfEven_le (Nat.mul_pos hden (Nat.two_pow_pos _))
  exact rescale_le (Nat.le_of_lt (lt_binaryLength hden)) (by unfold lastPlace; omega)

theorem holds_pack (format : FloatFormat) (negative : Bool) {m : Nat} {e : Int}
    (hm : m ≤ Nat.pow 2 format.precision) (he : format.minExponent ≤ e) :
    format.Holds (format.pack negative m e) := by
  unfold pack
  split
  · exact Or.inl ⟨rfl, rfl⟩
  · rename_i hz
    have hodd := oddPart_odd e hz
    have hle := oddPart_le m e
    simp only
    split
    · rename_i htop
      refine Or.inr ⟨hodd, ?_, by omega, htop⟩
      rcases Nat.lt_or_eq_of_le (Nat.le_trans hle.1 hm) with hlt | heq
      · exact hlt
      · rw [heq] at hodd
        cases format <;> simp [precision] at hodd
    · trivial

theorem holds_round (format : FloatFormat) (negative : Bool) {num den : Nat} (hden : 0 < den) :
    format.Holds (format.round negative num den) :=
  format.holds_pack negative (format.unitsOf_le hden) (by unfold lastPlace; omega)

end FloatFormat

/-! ### Numbers of a format -/

structure Floating (format : FloatFormat) where
  value : Binary
  holds : format.Holds value
  deriving DecidableEq

abbrev Double := Floating .double

abbrev Single := Floating .single

abbrev Half := Floating .half

abbrev Extended := Floating .extended

namespace Binary

/-- Magnitude as a fraction. -/
def fraction (mantissa : Nat) (exponent : Int) : Nat × Nat :=
  (mantissa * Nat.pow 2 exponent.toNat, Nat.pow 2 (-exponent).toNat)

theorem fraction_pos (mantissa : Nat) (exponent : Int) : 0 < (fraction mantissa exponent).2 :=
  Nat.two_pow_pos _

/-- The number without its fraction, if it is finite. -/
def truncate? : Binary → Option Int
  | finite negative mantissa exponent =>
    let (num, den) := fraction mantissa exponent
    some (Decimal.signed negative (num / den))
  | _ => none

def isZero : Binary → Bool
  | finite _ mantissa _ => mantissa = 0
  | _ => false

def isNaN : Binary → Bool
  | nan => true
  | _ => false

/-- Greater than the integer `n`. -/
def exceeds (n : Int) : Binary → Bool
  | finite negative mantissa exponent =>
    let (num, den) := fraction mantissa exponent
    n * den < Decimal.signed negative num
  | infinite negative => !negative
  | nan => false

/-- Less than the integer `n`. -/
def isBelow (n : Int) : Binary → Bool
  | finite negative mantissa exponent =>
    let (num, den) := fraction mantissa exponent
    Decimal.signed negative num < n * den
  | infinite negative => negative
  | nan => false

end Binary

namespace Floating

variable {format : FloatFormat}

instance : BEq (Floating format) := instBEqOfDecidableEq

def nan : Floating format := ⟨.nan, trivial⟩

def infinite (negative : Bool) : Floating format := ⟨.infinite negative, trivial⟩

def zero (negative : Bool) : Floating format := ⟨.finite negative 0 0, Or.inl ⟨rfl, rfl⟩⟩

instance : Inhabited (Floating format) := ⟨zero false⟩

/-- The nearest number to `± num / den`; a denominator of zero is read as one. -/
def ofFraction (negative : Bool) (num den : Nat) : Floating format :=
  if h : 0 < den then ⟨format.round negative num den, format.holds_round negative h⟩
  else ⟨format.round negative num 1, format.holds_round negative Nat.one_pos⟩

/-- The nearest number of this format. -/
def ofBinary : Binary → Floating format
  | .finite negative mantissa exponent =>
    let (num, den) := Binary.fraction mantissa exponent
    ofFraction negative num den
  | .infinite negative => infinite negative
  | .nan => nan

/-- A decimal whose first digit stands beyond this place is out of reach of every format. -/
def decimalReach : Int := 400

/-- The nearest number to a decimal. -/
def ofDecimal : Decimal → Floating format
  | .finite negative coefficient exponent =>
    let leading := exponent + (natChars coefficient).length
    if coefficient = 0 || leading < -decimalReach then zero negative
    else if decimalReach < leading then infinite negative
    else ofFraction negative (coefficient * Nat.pow 10 exponent.toNat)
      (Nat.pow 10 (-exponent).toNat)
  | .infinite negative => infinite negative
  | .nan .. => nan

/-- The nearest number to an integer, unless that is an infinity. -/
def ofInt? (n : Int) : Option (Floating format) :=
  let x : Floating format := ofFraction (n < 0) n.natAbs 1
  match x.value with
  | .infinite _ => none
  | _ => some x

/-- Every single-precision number is a double-precision one. -/
def toDouble (x : Single) : Double :=
  ⟨x.value, by
    have h := x.holds
    revert h
    cases x.value with
    | finite negative mantissa exponent =>
      simp only [FloatFormat.Holds, FloatFormat.precision, FloatFormat.minExponent,
        FloatFormat.ceiling, Nat.pow_eq]
      omega
    | infinite | nan => exact id⟩

def toSingle (x : Double) : Single := ofBinary x.value

/-- The sign of a product is negative if exactly one factor is. -/
def mul (x y : Floating format) : Floating format :=
  match x.value, y.value with
  | .finite nx mx ex, .finite ny my ey =>
    let (num, den) := Binary.fraction (mx * my) (ex + ey)
    ofFraction (nx != ny) num den
  | .infinite nx, .infinite ny => infinite (nx != ny)
  | .infinite nx, .finite ny my _ => if my = 0 then nan else infinite (nx != ny)
  | .finite nx mx _, .infinite ny => if mx = 0 then nan else infinite (nx != ny)
  | _, _ => nan

/-! ### Reading -/

/-- Drops the underscores that stand between two digits and fails at any other. -/
def dropSeparators? : List Char → Option (List Char)
  | [] => some []
  | [c] => if c = '_' then none else some [c]
  | c :: '_' :: rest => do
    let tail ← dropSeparators? rest
    if (Text.digitValue? c).isSome && (rest.head?.bind Text.digitValue?).isSome then
      some (c :: tail)
    else none
  | c :: rest => if c = '_' then none else (dropSeparators? rest).map (c :: ·)

/-- A decimal numeral, or the name of an infinity or of no number; blanks at the ends do not
count. -/
def ofText? (text : String) : Option (Floating format) := do
  let plain ← dropSeparators? (Text.trimBy Text.isNumeralBlank text.toList)
  let (negative, rest) := Decimal.readSign plain
  let word := rest.map Char.toLower
  if word = "inf".toList || word = "infinity".toList then some (infinite negative)
  else if word = "nan".toList then some nan
  else (Decimal.readUnbounded? negative rest).map ofDecimal

end Floating

end RelationalMapper.Number
