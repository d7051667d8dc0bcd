import RelationalMapper.Dialect.Basic

/-! # Values that storage classes hold

What a driver that binds only numbers, texts, bytes and null is given for a value. Each kind of value has
a representation among these, except a time of day and a number of the extended format, which are handed
over as they are. -/

namespace RelationalMapper

/-- The types that a storage class is made for; each covers what is derived from it. -/
def NativeType.storageTypes : List NativeType := [null, int, float, text, bytes, byteArray]

open Calendar

namespace Scalar

variable {s : Scalar}

/-- A storage class holds the scalar. -/
def isStorable (s : Scalar) : Bool := NativeType.storageTypes.any s.type.derivesFrom

/-- A time of day, or a number beyond the plain format. -/
def isUnrendered (s : Scalar) : Bool := s.type.derivesFrom .time || s.type = .extended

/-- What has no storage class is given one step by step: its machine format and its nanoseconds are taken
away, and what then is no number, text or bytes becomes one. -/
theorem isStorable_stored (hmissing : s.isMissing = false) (hrendered : s.isUnrendered = false) :
    s.unwrapped.withoutNanoseconds.uuidAsText.stored.isStorable = true := by
  cases s with
  | null | notAvailable | notATime => exact (Bool.false_ne_true hmissing.symm).elim
  | time | refinedTime | extended => exact (Bool.false_ne_true hrendered.symm).elim
  | machineMoment m =>
      cases m with
      | none => exact (Bool.false_ne_true hmissing.symm).elim
      | some m => rfl
  | _ => rfl

/-- None of the steps is for a time of day or a number of the extended format. -/
theorem stored_of_isUnrendered (h : s.isUnrendered = true) :
    s.unwrapped.withoutNanoseconds.uuidAsText.stored = s ∧ s.isStorable = false := by
  cases s with
  | time | refinedTime | extended => exact ⟨rfl, rfl⟩
  | machineMoment m => cases m <;> exact (Bool.false_ne_true h).elim
  | _ => exact (Bool.false_ne_true h).elim

/-- A driver of storage classes can bind what it is given for a value except for times of day, and for
numbers of the extended format unless they are missing; it is given these as they are. -/
theorem isStorable_bound_iff (s : Scalar) :
    ((s.bound Dialect.sqlite.bindingStyle).isStorable = true ↔ s.isUnrendered = true → s.isMissing = true) ∧
      ((s.bound Dialect.sqlite.bindingStyle).isStorable = false →
        s.bound Dialect.sqlite.bindingStyle = s) := by
  have hstyle : Dialect.sqlite.bindingStyle = .storageClasses := by decide
  rw [hstyle, bound]
  by_cases hmissing : s.isMissing = true
  · rw [if_pos hmissing]
    exact ⟨iff_of_true rfl fun _ => hmissing, nofun⟩
  · rw [if_neg hmissing]
    cases hrendered : s.isUnrendered with
    | true =>
        obtain ⟨hsame, hunstorable⟩ := stored_of_isUnrendered hrendered
        simp [hsame, hunstorable, hmissing]
    | false =>
        have hstorable := isStorable_stored (by simpa using hmissing) hrendered
        exact ⟨iff_of_true hstorable nofun, fun h => (Bool.false_ne_true (h.symm.trans hstorable)).elim⟩

/-- A time of day is not made a text. -/
theorem midnight_not_bound :
    (time { clock := .midnight }).bound Dialect.sqlite.bindingStyle = time { clock := .midnight } ∧
      ((time { clock := .midnight }).bound Dialect.sqlite.bindingStyle).isStorable = false := by
  decide

end Scalar

end RelationalMapper
