import RelationalMapper.Proofs.Number.Rational
import RelationalMapper.Proofs.Value.Declared

/-! # Numbers in the fields of integers and truth values

What becomes of a finite number, or of a text that holds one, in a field of integers: its whole part if
the field is wide enough for that, and a refusal otherwise. So a number changes without notice just if it
is not whole. A field of truth values asks whether the whole part is zero. -/

namespace RelationalMapper

open Number

/-! ## The width of an integer type -/

namespace NativeType

theorem mem_integerTypes {t : NativeType} :
    t ∈ integerTypes ↔ t = int ∨ t = int64 ∨ t = int32 ∨ t = int16 ∨ t = int8 := by
  simp [integerTypes]

/-- How many bits an integer type has, if that is limited. -/
def width? : NativeType → Option Nat
  | int64 => some 64
  | int32 => some 32
  | int16 => some 16
  | int8 => some 8
  | _ => none

/-- The integer lies in the range of the type. -/
def Fits (t : NativeType) (n : ℤ) : Prop := ∀ bits ∈ t.width?, -2 ^ (bits - 1) ≤ n ∧ n < 2 ^ (bits - 1)

end NativeType

/-! ## The number of a scalar -/

namespace Scalar

variable {s : Scalar} {t : NativeType} {q : ℚ}

/-- The number that a scalar stands for, if that is finite; a text may hold a decimal. -/
def number? (s : Scalar) : Option ℚ :=
  match s.unwrapped.plain with
  | .bool b => some (if b then 1 else 0)
  | .int n => some n
  | .float x => x.value.rational?
  | .extended x => x.value.rational?
  | .decimal d => d.rational?
  | .text t => (Decimal.ofText? t).bind Decimal.rational?
  | _ => none

theorem unwrapped_unwrapped (s : Scalar) : s.unwrapped.unwrapped = s.unwrapped := by
  cases s with
  | machineMoment m => cases m <;> rfl
  | _ => rfl

theorem plain_unwrapped_plain_unwrapped (s : Scalar) :
    s.unwrapped.plain.unwrapped.plain = s.unwrapped.plain := by
  cases s with
  | machineMoment m => cases m <;> rfl
  | _ => rfl

theorem nanosecondCount?_unwrapped (s : Scalar) : s.unwrapped.nanosecondCount? = none := by
  cases s with
  | machineMoment m => cases m <;> rfl
  | _ => rfl

theorem nanosecondCount?_plain_unwrapped (s : Scalar) : s.unwrapped.plain.nanosecondCount? = none := by
  cases s with
  | machineMoment m => cases m <;> rfl
  | _ => rfl

/-- A value of an integer type is a whole number in the range of the type. -/
theorem number?_of_mem_integerTypes (ht : s.type ∈ NativeType.integerTypes) :
    ∃ n : ℤ, s.number? = some (n : ℚ) ∧ s.type.Fits n := by
  cases s with
  | int n => exact ⟨n, rfl, nofun⟩
  | int64 n | int32 n | int16 n | int8 n =>
      refine ⟨n.toInt, rfl, ?_⟩
      rintro bits ⟨⟩
      exact ⟨n.le_toInt, n.toInt_lt⟩
  | _ => simp [type, NativeType.integerTypes] at ht

/-- A text is not made of anything else. -/
theorem plain_unwrapped_ne_text (h : s.type.derivesFrom .text = false) (x : String) :
    s.unwrapped.plain ≠ .text x := by
  cases s with
  | text | refinedText => exact (Bool.false_ne_true h.symm).elim
  | machineMoment m => cases m <;> nofun
  | _ => nofun

end Scalar

/-! ## The whole part -/

namespace Conversion

variable {s : Scalar} {t : NativeType} {q : ℚ}

theorem ofBinary_eq {x : Binary} (h : x.rational? = some q) :
    Integer.ofBinary x = .ok (wholePart q) := by
  rw [Integer.ofBinary, Binary.truncate?_eq h]

theorem ofDecimal_eq {d : Decimal} (h : d.rational? = some q) (hvast : d.isVast = false) :
    Integer.ofDecimal d = .ok (wholePart q) := by
  cases d with
  | finite negative coefficient exponent =>
      simp [Integer.ofDecimal, hvast, Decimal.truncate?_eq h]
  | infinite | nan => contradiction

/-- What is a number itself, and not a text, is cut to its whole part. -/
theorem integer?_eq {r : Scalar} (hcount : r.nanosecondCount? = none)
    (hr : r.unwrapped.plain = s.unwrapped.plain) (hq : s.number? = some q)
    (htext : ∀ x, s.unwrapped.plain ≠ .text x) (ht : t.isInteger = true)
    (hvast : (Value.scalar s).isVast t = false) : integer? r = some (wholePart q) := by
  rw [integer?, Scalar.toInteger, hcount, Scalar.plainInteger, hr]
  rw [Scalar.number?] at hq
  rw [Value.isVast, wholeSource?] at hvast
  cases hp : s.unwrapped.plain with
  | bool b =>
      obtain rfl : (if b then 1 else 0) = q := by simpa [hp] using hq
      cases b
      · exact congrArg some (wholePart_intCast 0).symm
      · exact congrArg some (wholePart_intCast 1).symm
  | int n =>
      obtain rfl : (n : ℚ) = q := by simpa [hp] using hq
      exact congrArg some (wholePart_intCast n).symm
  | float x | extended x =>
      simp only [hp] at hq
      simp only [ofBinary_eq hq]
      rfl
  | decimal d =>
      simp only [hp] at hq
      have hroom : d.isVast = false := by simpa [hp, ht] using hvast
      simp only [ofDecimal_eq hq hroom]
      rfl
  | text x => exact absurd hp (htext x)
  | _ => simp [hp] at hq

/-- So is the decimal of a text. -/
theorem toInteger?_unwrapped_eq (hq : s.number? = some q) (ht : t.isInteger = true)
    (hvast : (Value.scalar s).isVast t = false) : toInteger? s.unwrapped = some (wholePart q) := by
  unfold toInteger?
  split
  · rename_i x hp
    simp only [Scalar.number?, hp] at hq
    obtain ⟨d, hd, hrational⟩ := Option.bind_eq_some_iff.mp hq
    simp [hd, Decimal.truncate?_eq hrational]
  · rename_i hother
    exact integer?_eq s.nanosecondCount?_unwrapped (congrArg Scalar.plain s.unwrapped_unwrapped) hq
      hother ht hvast

/-- The whole part keeps its value in a type that is wide enough. -/
theorem exists_narrow?_eq {n : ℤ} (ht : t ∈ NativeType.integerTypes) (hfits : t.Fits n) :
    ∃ w, narrow? t n = some w ∧ w.type = t ∧ w.number? = some (n : ℚ) := by
  obtain rfl | rfl | rfl | rfl | rfl := NativeType.mem_integerTypes.mp ht
  · exact ⟨.int n, rfl, rfl, rfl⟩
  · obtain ⟨hlow, hhigh⟩ := hfits 64 rfl
    refine ⟨.int64 (.ofInt n), if_pos (within_width hlow hhigh), rfl, ?_⟩
    exact congrArg (fun n : ℤ => some (n : ℚ)) (Int64.toInt_ofInt_of_le hlow hhigh)
  · obtain ⟨hlow, hhigh⟩ := hfits 32 rfl
    refine ⟨.int32 (.ofInt n), if_pos (within_width hlow hhigh), rfl, ?_⟩
    exact congrArg (fun n : ℤ => some (n : ℚ)) (Int32.toInt_ofInt_of_le hlow hhigh)
  · obtain ⟨hlow, hhigh⟩ := hfits 16 rfl
    refine ⟨.int16 (.ofInt n), if_pos (within_width hlow hhigh), rfl, ?_⟩
    exact congrArg (fun n : ℤ => some (n : ℚ)) (Int16.toInt_ofInt_of_le hlow hhigh)
  · obtain ⟨hlow, hhigh⟩ := hfits 8 rfl
    refine ⟨.int8 (.ofInt n), if_pos (within_width hlow hhigh), rfl, ?_⟩
    exact congrArg (fun n : ℤ => some (n : ℚ)) (Int8.toInt_ofInt_of_le hlow hhigh)

/-- A type that is not wide enough refuses the integer. -/
theorem narrow?_eq_none {n : ℤ} (ht : t ∈ NativeType.integerTypes) (hfits : ¬t.Fits n) :
    narrow? t n = none := by
  have houtside {bits : Nat} (hwidth : t.width? = some bits) :
      ¬(decide (-Int.pow 2 (bits - 1) ≤ n) && decide (n < Int.pow 2 (bits - 1))) = true := by
    intro hwithin
    apply hfits
    rintro b hb
    obtain rfl := Option.some.inj (hwidth.symm.trans hb)
    simpa using hwithin
  obtain rfl | rfl | rfl | rfl | rfl := NativeType.mem_integerTypes.mp ht
  · exact absurd nofun hfits
  all_goals exact if_neg (houtside rfl)

theorem scalar?_of_mem_integerTypes (ht : t ∈ NativeType.integerTypes) :
    scalar? s t = (toInteger? s).bind (narrow? t) := by
  obtain rfl | rfl | rfl | rfl | rfl := NativeType.mem_integerTypes.mp ht <;> rfl

/-- A number is true if its whole part is not zero. -/
theorem toBool?_unwrapped_eq (hq : s.number? = some q) (htext : s.type.derivesFrom .text = false)
    (hvast : (Value.scalar s).isVast .bool = false) :
    toBool? s.unwrapped = some (decide (wholePart q ≠ 0)) := by
  have hother := Scalar.plain_unwrapped_ne_text htext
  unfold toBool?
  split
  · rename_i x hp
    exact absurd hp (hother x)
  · rename_i b hp
    simp [Scalar.number?, hp] at hq
  · rw [integer?_eq s.nanosecondCount?_plain_unwrapped s.plain_unwrapped_plain_unwrapped hq hother rfl
      hvast]
    rfl

end Conversion

/-! ## Fields of integers and of truth values -/

namespace Scalar

variable {s : Scalar} {t : NativeType} {q : ℚ}

/-- A field of the type refuses the value, or is given the number itself. -/
inductive Unchanged (s : Scalar) (t : NativeType) (q : ℚ) : Except Failure Value → Prop where
  | refused : Unchanged s t q (.error (.conversion (.scalar s) t))
  | same {w : Scalar} (htype : w.type = t) (hq : w.number? = some q) : Unchanged s t q (.ok (.scalar w))

theorem ne_null_of_number? (hq : s.number? = some q) : s ≠ .null := by
  rintro rfl
  contradiction

theorem converted_integer (hq : s.number? = some q) (ht : t ∈ NativeType.integerTypes)
    (htype : s.type ≠ t) (hvast : (Value.scalar s).isVast t = false) :
    (Value.scalar s).converted t =
      match Conversion.narrow? t (wholePart q) with
      | some w => .ok (.scalar w)
      | none => .error (.conversion (.scalar s) t) := by
  have hobject : t ≠ .object := by
    rintro rfl
    exact absurd ht (by decide)
  have hinteger : t.isInteger = true := List.any_eq_true.mpr ⟨t, ht, t.derivesFrom_refl⟩
  rw [Value.converted_scalar (ne_null_of_number? hq) hobject htype hvast,
    Conversion.scalar?_of_mem_integerTypes ht, Conversion.toInteger?_unwrapped_eq hq hinteger hvast]
  rfl

/-- A number in a field of integers that is wide enough is cut to its whole part. -/
theorem exists_converted_eq (hq : s.number? = some q) (ht : t ∈ NativeType.integerTypes)
    (hvast : (Value.scalar s).isVast t = false) (hfits : t.Fits (wholePart q)) :
    ∃ w, (Value.scalar s).converted t = .ok (.scalar w) ∧ w.type = t ∧
      w.number? = some (wholePart q : ℚ) := by
  by_cases htype : s.type = t
  · subst htype
    obtain ⟨n, hn, -⟩ := number?_of_mem_integerTypes ht
    obtain rfl := Option.some.inj (hn.symm.trans hq)
    exact ⟨s, Value.converted_self (.scalar s), rfl, by rw [wholePart_intCast, hn]⟩
  · obtain ⟨w, hw, hwtype, hnumber⟩ := Conversion.exists_narrow?_eq ht hfits
    exact ⟨w, by rw [converted_integer hq ht htype hvast, hw], hwtype, hnumber⟩

/-- A field of integers that is not wide enough refuses the number. -/
theorem converted_of_not_fits (hq : s.number? = some q) (ht : t ∈ NativeType.integerTypes)
    (hvast : (Value.scalar s).isVast t = false) (hfits : ¬t.Fits (wholePart q)) :
    (Value.scalar s).converted t = .error (.conversion (.scalar s) t) := by
  have htype : s.type ≠ t := by
    rintro rfl
    obtain ⟨n, hn, hown⟩ := number?_of_mem_integerTypes ht
    obtain rfl := Option.some.inj (hn.symm.trans hq)
    rw [wholePart_intCast] at hfits
    exact hfits hown
  rw [converted_integer hq ht htype hvast, Conversion.narrow?_eq_none ht hfits]

/-- A field that is wide enough for the whole part leaves just the whole numbers unchanged. -/
theorem unchanged_converted_iff (hq : s.number? = some q) (ht : t ∈ NativeType.integerTypes) :
    s.Unchanged t q ((Value.scalar s).converted t) ↔
      (Value.scalar s).isVast t = false ∧ (t.Fits (wholePart q) → ∃ n : ℤ, (n : ℚ) = q) := by
  simp only [← cast_wholePart_eq_iff]
  constructor
  · intro hunchanged
    have hvast : (Value.scalar s).isVast t = false := by
      by_contra hvast
      rw [converted_of_isVast (by simpa using hvast)] at hunchanged
      cases hunchanged
    refine ⟨hvast, fun hfits => ?_⟩
    obtain ⟨w, hw, -, hnumber⟩ := exists_converted_eq hq ht hvast hfits
    rw [hw] at hunchanged
    cases hunchanged with
    | same _ hsame => exact Option.some.inj (hnumber.symm.trans hsame)
  · rintro ⟨hvast, hwhole⟩
    by_cases hfits : t.Fits (wholePart q)
    · obtain ⟨w, hw, hwtype, hnumber⟩ := exists_converted_eq hq ht hvast hfits
      rw [hw]
      exact .same hwtype (by rw [hnumber, hwhole hfits])
    · rw [converted_of_not_fits hq ht hvast hfits]
      exact .refused

theorem converted_bool (hq : s.number? = some q) (htext : s.type.derivesFrom .text = false)
    (hvast : (Value.scalar s).isVast .bool = false) :
    (Value.scalar s).converted .bool = .ok (.scalar (.bool (wholePart q ≠ 0))) := by
  have hbool := Conversion.toBool?_unwrapped_eq hq htext hvast
  by_cases htype : s.type = .bool
  · cases s with
    | bool b =>
        have hsame : b = decide (wholePart q ≠ 0) := by
          rw [← Option.some.inj hbool]
          cases b <;> rfl
        rw [← hsame]
        exact Value.converted_self (.scalar (.bool b))
    | _ => contradiction
  · rw [Value.converted_scalar (ne_null_of_number? hq) (by decide) htype hvast]
    simp only [Conversion.scalar?, hbool, Option.map_some]

/-- Only what lies between minus one and one is taken for another truth value than its own. -/
theorem converted_bool_iff (hq : s.number? = some q) (htext : s.type.derivesFrom .text = false) :
    (Value.scalar s).converted .bool = .ok (.scalar (.bool (q ≠ 0))) ↔
      (Value.scalar s).isVast .bool = false ∧ (q = 0 ∨ 1 ≤ |q|) := by
  constructor
  · intro hresult
    have hvast : (Value.scalar s).isVast .bool = false := by
      by_contra hvast
      rw [converted_of_isVast (by simpa using hvast)] at hresult
      contradiction
    refine ⟨hvast, ?_⟩
    rw [converted_bool hq htext hvast] at hresult
    by_contra! hbetween
    have hzero : wholePart q = 0 := wholePart_eq_zero_iff.mpr hbetween.2
    simp [hzero, hbetween.1] at hresult
  · rintro ⟨hvast, hcase⟩
    have hsame : wholePart q = 0 ↔ q = 0 := by
      rw [wholePart_eq_zero_iff]
      rcases hcase with rfl | hlarge
      · simp
      · refine iff_of_false (not_lt.mpr hlarge) ?_
        rintro rfl
        norm_num at hlarge
    rw [converted_bool hq htext hvast]
    simp only [ne_eq, hsame]

/-- What fields of integers and of truth values make of a finite number, however their types are
wrapped. -/
structure ReadAs (s : Scalar) (q : ℚ) : Prop where
  unchanged_iff : ∀ {h : Hint} {t : NativeType}, h.Wraps t → t ∈ NativeType.integerTypes →
    (s.Unchanged t q (h.convert (.scalar s)) ↔
      (Value.scalar s).isVast t = false ∧ (t.Fits (wholePart q) → ∃ n : ℤ, (n : ℚ) = q))
  /-- What changes without notice becomes its whole part. -/
  whole : ∀ {h : Hint} {t : NativeType}, h.Wraps t → t ∈ NativeType.integerTypes →
    (Value.scalar s).isVast t = false → t.Fits (wholePart q) →
    ∃ w, h.convert (.scalar s) = .ok (.scalar w) ∧ w.type = t ∧ w.number? = some (wholePart q : ℚ)
  truth_iff : ∀ {h : Hint}, h.Wraps .bool → s.type.derivesFrom .text = false →
    (h.convert (.scalar s) = .ok (.scalar (.bool (q ≠ 0))) ↔
      (Value.scalar s).isVast .bool = false ∧ (q = 0 ∨ 1 ≤ |q|))

/-- Every finite number that a row can hold, in whatever form. -/
theorem number_readAs (hq : s.number? = some q) : s.ReadAs q where
  unchanged_iff hwraps ht := by rw [hwraps.convert_eq]; exact unchanged_converted_iff hq ht
  whole hwraps ht hvast hfits := by rw [hwraps.convert_eq]; exact exists_converted_eq hq ht hvast hfits
  truth_iff hwraps htext := by rw [hwraps.convert_eq]; exact converted_bool_iff hq htext

/-- Two and a half, as a decimal. -/
def fractional : Scalar := .decimal (.finite false 25 (-1))

theorem number?_fractional : fractional.number? = some (5 / 2) := by
  refine congrArg some ?_
  norm_num [signedRational]

theorem readAs_fractional : fractional.number? = some (5 / 2) ∧ fractional.ReadAs (5 / 2) :=
  ⟨number?_fractional, number_readAs number?_fractional⟩

/-- Two and a half becomes two. -/
theorem fraction_lost :
    Hint.convert (.type .int) (.scalar fractional) = .ok (.int 2) ∧
      ¬fractional.Unchanged .int (5 / 2) (Hint.convert (.type .int) (.scalar fractional)) := by
  have hcut : Hint.convert (.type .int) (.scalar fractional) = .ok (.int 2) := rfl
  refine ⟨hcut, fun hunchanged => ?_⟩
  rw [hcut] at hunchanged
  generalize hresult : (Except.ok (Value.int 2) : Except Failure Value) = result at hunchanged
  cases hunchanged with
  | refused => contradiction
  | same _ hsame =>
      obtain rfl := Value.scalar.inj (Except.ok.inj hresult)
      have htwo : (2 : ℚ) = 5 / 2 := Option.some.inj hsame
      norm_num at htwo

end Scalar

end RelationalMapper
