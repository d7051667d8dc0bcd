import Mathlib.Algebra.Group.Int.Defs
import RelationalMapper.Dialect.Basic
import RelationalMapper.Proofs.Calendar.Reader
import RelationalMapper.Proofs.Number.Binary
import RelationalMapper.Proofs.Number.Decimal
import RelationalMapper.Proofs.Value.Uuid
import RelationalMapper.Value.Conversion

/-! # Values restored from what was bound

What a driver is given for a value, brought back by a row and converted to the type of the value, is
the value again: whether the dialect binds it as it is, without its machine format, or as a text. -/

namespace RelationalMapper

open Calendar Number

namespace Scalar

/-- The scalars of the types that are bound and read back, less those that stand for no value; of an
offset only whole minutes are read. -/
def Restorable : Scalar → Prop
  | bool _ | int _ | text _ | int64 _ | int32 _ | int16 _ | int8 _ | uuid _ | date _ => True
  | float x | float64 x => x.value.isNaN = false
  | float32 x => x.value.isNaN = false
  | decimal d => d.Proper
  | dateTime m => ∀ o ∈ m.offset, o.WholeMinute
  | _ => False

/-! ## What a driver is given -/

/-- How a value stands in the scalar that a driver is given for it. -/
inductive Carries : (given value : Scalar) → Prop where
  | itself (s : Scalar) : Carries s s
  | truth (b : Bool) : Carries (int (if b then 1 else 0)) (bool b)
  | int64 (n : Int64) : Carries (int n.toInt) (int64 n)
  | int32 (n : Int32) : Carries (int n.toInt) (int32 n)
  | int16 (n : Int16) : Carries (int n.toInt) (int16 n)
  | int8 (n : Int8) : Carries (int n.toInt) (int8 n)
  | double (x : Double) : Carries (float x) (float64 x)
  | single (x : Single) : Carries (float x.toDouble) (float32 x)
  | decimal {d : Decimal} (h : d.Proper) : Carries (text d.text) (decimal d)
  | uuid (u : Uuid) : Carries (text u.text) (uuid u)
  | date (d : Date) : Carries (text d.text) (date d)
  | dateTime {m : DateTime} (h : ∀ o ∈ m.offset, o.WholeMinute) :
      Carries (text (m.text ' ')) (dateTime m)

namespace Restorable

theorem not_isMissing {s : Scalar} (h : s.Restorable) : s.isMissing = false := by
  cases s <;> first | rfl | exact h | exact h.elim

theorem carries {s : Scalar} (h : s.Restorable) (style : BindingStyle) :
    Carries (s.bound style) s := by
  rw [bound, if_neg (by simp [h.not_isMissing])]
  cases s with
  | int | text | float => cases style <;> exact .itself _
  | int64 n => cases style <;> exact .int64 n
  | int32 n => cases style <;> exact .int32 n
  | int16 n => cases style <;> exact .int16 n
  | int8 n => cases style <;> exact .int8 n
  | float64 x => cases style <;> exact .double x
  | float32 x => cases style <;> exact .single x
  | bool b =>
      cases style with
      | storageClasses => exact .truth b
      | nativeUuid | textUuid => exact .itself _
  | uuid u =>
      cases style with
      | nativeUuid => exact .itself _
      | textUuid | storageClasses => exact .uuid u
  | decimal d =>
      cases style with
      | storageClasses => exact .decimal h
      | nativeUuid | textUuid => exact .itself _
  | date d =>
      cases style with
      | storageClasses => exact .date d
      | nativeUuid | textUuid => exact .itself _
  | dateTime m =>
      cases style with
      | storageClasses => exact .dateTime h
      | nativeUuid | textUuid => exact .itself _
  | _ => exact h.elim

end Restorable

end Scalar

/-! ## What a row brings back -/

/-- A width holds the integers that were taken from it. -/
theorem Conversion.within_width {bits : Nat} {n : Int} (hlow : -2 ^ bits ≤ n) (hhigh : n < 2 ^ bits) :
    (decide (-Int.pow 2 bits ≤ n) && decide (n < Int.pow 2 bits)) = true :=
  Bool.and_eq_true_iff.mpr ⟨decide_eq_true hlow, decide_eq_true hhigh⟩

namespace Value

/-- A value of the declared type stays as it is. -/
theorem converted_self (v : Value) : v.converted v.type = .ok v := if_pos (.inr (.inr rfl))

/-- A scalar that is neither null nor of the declared type, and that there is room for, is converted by
the rule of the type. -/
theorem converted_scalar {s : Scalar} {target : NativeType} (hnull : s ≠ .null) (htarget : target ≠ .object)
    (htype : s.type ≠ target) (hvast : (Value.scalar s).isVast target = false) :
    (Value.scalar s).converted target =
      match Conversion.scalar? s.unwrapped target with
      | some t => .ok (.scalar t)
      | none => .error (.conversion (.scalar s) target) := by
  have hskip : ¬(Value.scalar s = .null ∨ target = .object ∨ (Value.scalar s).type = target) := by
    rintro (hs | hobject | hsame)
    · exact hnull (Value.scalar.inj hs)
    · exact htarget hobject
    · exact htype hsame
  rw [converted, if_neg hskip, if_neg (by simp [hvast])]
  cases Conversion.scalar? s.unwrapped target <;> rfl

/-- A scalar of another type whose whole part is not asked for is what the rule of the type makes of
it. -/
theorem converted_of_scalar? {s t : Scalar} {target : NativeType} (hnull : s ≠ .null)
    (htarget : target ≠ .object) (htype : s.type ≠ target)
    (hwhole : Conversion.wholeSource? s.unwrapped target = none)
    (h : Conversion.scalar? s.unwrapped target = some t) :
    (Value.scalar s).converted target = .ok (.scalar t) := by
  rw [converted_scalar hnull htarget htype (by simp [isVast, hwhole]), h]

end Value

/-- A scalar that carries a value is converted to it by the rule of its type. -/
theorem Scalar.Carries.converted {s t : Scalar} (h : Carries t s) :
    (Value.scalar t).converted s.type = .ok (.scalar s) := by
  cases h with
  | itself s => exact Value.converted_self (.scalar s)
  | truth b => cases b <;> rfl
  | int64 n =>
      refine Value.converted_of_scalar? nofun nofun nofun rfl ?_
      exact (if_pos (Conversion.within_width n.le_toInt n.toInt_lt)).trans
        (by rw [Int64.ofInt_toInt])
  | int32 n =>
      refine Value.converted_of_scalar? nofun nofun nofun rfl ?_
      exact (if_pos (Conversion.within_width n.le_toInt n.toInt_lt)).trans
        (by rw [Int32.ofInt_toInt])
  | int16 n =>
      refine Value.converted_of_scalar? nofun nofun nofun rfl ?_
      exact (if_pos (Conversion.within_width n.le_toInt n.toInt_lt)).trans
        (by rw [Int16.ofInt_toInt])
  | int8 n =>
      refine Value.converted_of_scalar? nofun nofun nofun rfl ?_
      exact (if_pos (Conversion.within_width n.le_toInt n.toInt_lt)).trans
        (by rw [Int8.ofInt_toInt])
  | double x => exact Value.converted_of_scalar? nofun nofun nofun rfl rfl
  | single x =>
      refine Value.converted_of_scalar? nofun nofun nofun rfl ?_
      exact congrArg (fun x => some (Scalar.float32 x)) x.toSingle_toDouble
  | decimal hd =>
      refine Value.converted_of_scalar? nofun nofun nofun rfl ?_
      exact congrArg (Option.map Scalar.decimal) (Decimal.ofText?_text hd)
  | uuid u =>
      refine Value.converted_of_scalar? nofun nofun nofun rfl ?_
      exact congrArg (Option.map Scalar.uuid) u.ofText?_text
  | date d =>
      refine Value.converted_of_scalar? nofun nofun nofun rfl ?_
      exact congrArg (Option.map fun m => Scalar.date m.date) (DateTime.ofText?_date d)
  | dateTime hm =>
      refine Value.converted_of_scalar? nofun nofun nofun rfl ?_
      exact congrArg (Option.map Scalar.dateTime) (DateTime.ofText?_text hm (.inl rfl))

/-- On every dialect a value of these types comes back as the value it was, and of its type. -/
theorem Value.converted_bound (d : Dialect) {s : Scalar} (h : s.Restorable) :
    ((Value.scalar s).bound d.bindingStyle).converted s.type = .ok (.scalar s) :=
  (h.carries d.bindingStyle).converted

/-- A decimal with trailing zeros and an exponent, by way of its text. -/
theorem Value.converted_bound_decimal :
    (Value.scalar (.decimal (.finite true 1200 5))).bound Dialect.sqlite.bindingStyle =
        .text "-1.200E+8" ∧
      (Value.text "-1.200E+8").converted .decimal =
        .ok (.scalar (.decimal (.finite true 1200 5))) := by
  have hbound : (Value.scalar (.decimal (.finite true 1200 5))).bound
      Dialect.sqlite.bindingStyle = .text "-1.200E+8" := by decide +kernel
  have hproper : (Scalar.decimal (.finite true 1200 5)).Restorable := by
    change (Decimal.finite true 1200 5).Proper
    decide +kernel
  exact ⟨hbound, hbound ▸ Value.converted_bound .sqlite hproper⟩

end RelationalMapper
