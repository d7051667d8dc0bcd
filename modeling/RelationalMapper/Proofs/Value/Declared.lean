import RelationalMapper.Proofs.Columnwise
import RelationalMapper.Proofs.Mapping.Spelling
import RelationalMapper.Proofs.Value.Restored

/-! # Values of the declared type

What a row brings into a field is null, is of the type that the field is declared with, or is refused.
Two kinds of fields have no rule for some values and take them as they come: truth values in a machine
format, and dates for values that are neither temporal nor a text. -/

namespace RelationalMapper

open Calendar Number

/-! ## Wrapped types -/

/-- The hint is the type, in any number of annotations and choices with null around it. -/
inductive Hint.Wraps (t : NativeType) : Hint → Prop where
  | bare : Wraps t (.type t)
  | annotated {h : Hint} (ms : List Marker) : Wraps t h → Wraps t (h.annotate ms)
  | optional {h : Hint} : Wraps t h → Wraps t h.optional

namespace Hint

variable {t : NativeType} {h : Hint}

/-- A wrapped type is a choice between its alternatives, and one of them is null if there are several. -/
theorem Wraps.spec (hwraps : h.Wraps t) :
    h.Settled ∧ (h.members = [h] ∨ .type .null ∈ h.members) ∧ h.native = .type t := by
  induction hwraps with
  | bare => exact ⟨settled_of_members rfl, .inl rfl, rfl⟩
  | @annotated h ms _ ih =>
      obtain ⟨inner, all, hannotated, hnative⟩ := annotate_eq h ms
      rw [hannotated]
      exact ⟨settled_of_members rfl, .inl rfl, by rw [native, hnative, ih.2.2]⟩
  | @optional h _ ih =>
      obtain ⟨hsettled, hmembers, hnative⟩ := ih
      refine ⟨settled_union _, .inr ?_, (hsettled.native_optional_iff.mpr hmembers).trans hnative⟩
      rw [hsettled.optional_eq]
      split
      · assumption
      · exact List.mem_append_right _ List.mem_cons_self

/-- The wrapping does not matter to what a row brings. -/
theorem Wraps.convert_eq (hwraps : h.Wraps t) (v : Value) : h.convert v = v.converted t := by
  have hnative : h.nativeType? = some t := by
    rw [nativeType?, hwraps.spec.2.2]
    rfl
  rw [convert, hnative]

end Hint

/-! ## The rule of a type -/

/-- A point in time, a date, or a text that may hold one. -/
def NativeType.isTemporal (t : NativeType) : Bool := t.derivesFrom .date || t.derivesFrom .text

namespace Conversion

variable {s w : Scalar} {t : NativeType}

theorem type_of_narrow? {n : Int} (h : narrow? t n = some w) : w.type = t := by
  unfold narrow? at h
  cases t with
  | int | refinedInt =>
      obtain rfl := Option.some.inj h
      rfl
  | int64 | int32 | int16 | int8 =>
      obtain ⟨-, hw⟩ := Option.ite_none_right_eq_some.mp h
      obtain rfl := Option.some.inj hw
      rfl
  | color =>
      obtain ⟨c, -, rfl⟩ := Option.map_eq_some_iff.mp h
      rfl
  | _ => contradiction

/-- Only a type of integers computes a whole number. -/
theorem wholeSource?_of_not_isInteger (ht : t.isInteger = false) : wholeSource? s t = none := by
  unfold wholeSource?
  split <;> simp [ht, NativeType.hasIntegerAffinity]

/-- The types whose rule gives a value of the type itself, if it gives one at all. -/
def exactTypes : List NativeType :=
  [.bool, .text, .int, .int64, .int32, .int16, .int8, .float, .float64, .float32, .decimal, .uuid]

theorem type_of_scalar? (ht : t ∈ exactTypes) (h : scalar? s t = some w) : w.type = t := by
  cases t with
  | bool | text | decimal | uuid | float | float64 | float32 =>
      obtain ⟨x, -, rfl⟩ := Option.map_eq_some_iff.mp h
      rfl
  | int | int64 | int32 | int16 | int8 =>
      obtain ⟨n, -, hnarrow⟩ := Option.bind_eq_some_iff.mp h
      exact type_of_narrow? hnarrow
  | _ => exact absurd ht (by decide)

/-- The types of dates and of points in time. -/
def dateTypes : List NativeType := [.date, .dateTime]

theorem mem_dateTypes : t ∈ dateTypes ↔ t = .date ∨ t = .dateTime := List.mem_pair

/-- What is not temporal passes for a date. -/
theorem scalar?_of_not_temporal (ht : t ∈ dateTypes) (h : s.type.isTemporal = false) :
    scalar? s t = some s := by
  obtain rfl | rfl := mem_dateTypes.mp ht
  all_goals cases s <;> first | rfl | exact (Bool.false_ne_true h.symm).elim

theorem derivesFrom_of_temporal (ht : t ∈ dateTypes) (htemporal : s.type.isTemporal = true)
    (h : scalar? s t = some w) : w.type.derivesFrom t = true := by
  obtain rfl | rfl := mem_dateTypes.mp ht
  all_goals
    cases s with
    | date d | refinedDate d | dateTime m | refinedDateTime m | timestamp p =>
        obtain rfl := Option.some.inj h
        rfl
    | text t | refinedText t =>
        obtain ⟨m, -, rfl⟩ := Option.map_eq_some_iff.mp h
        rfl
    | _ => exact (Bool.false_ne_true htemporal).elim

end Conversion

/-! ## Fields of declared types -/

/-- The types that a field is declared with: the plain ones and those of a machine format. -/
def NativeType.declarable : List NativeType :=
  .machineBool :: Conversion.dateTypes ++ Conversion.exactTypes

namespace Scalar

variable {s : Scalar} {t : NativeType}

/-- The type has no rule for the value: a truth value in a machine format is not made from anything, and
a date only from what is temporal. -/
def Unruled (s : Scalar) (t : NativeType) : Prop :=
  s ≠ null ∧ s.type ≠ t ∧
    (t = .machineBool ∨ t ∈ Conversion.dateTypes ∧ s.unwrapped.type.isTemporal = false)

/-- What a field of a type is given for the value: null only for null, a value of the type, or a refusal
that names both. -/
inductive Keeps (s : Scalar) (t : NativeType) : Except Failure Value → Prop where
  | nothing (h : s = null) : Keeps s t (.ok .null)
  | declared {w : Scalar} (h : s ≠ null) (hw : w.type.derivesFrom t = true) :
      Keeps s t (.ok (.scalar w))
  | refused (h : s ≠ null) : Keeps s t (.error (.conversion (.scalar s) t))

/-- A field of the value's own type has room for it. -/
theorem isVast_type (s : Scalar) : (Value.scalar s).isVast s.type = false := by
  cases s with
  | machineMoment m => cases m <;> rfl
  | _ => rfl

/-- Where there is no room nothing is read, and the value is not of the type. -/
theorem converted_of_isVast (hvast : (Value.scalar s).isVast t = true) :
    (Value.scalar s).converted t = .error .outOfMemory := by
  refine Value.converted_eq_outOfMemory_iff.mpr ⟨?_, hvast⟩
  rintro rfl
  exact Bool.false_ne_true (s.isVast_type.symm.trans hvast)

/-- From a value without a rule no whole number is computed. -/
theorem Unruled.not_isVast (h : s.Unruled t) : (Value.scalar s).isVast t = false := by
  have hinteger : t.isInteger = false := by
    obtain ⟨-, -, rfl | ⟨ht, -⟩⟩ := h
    · rfl
    · obtain rfl | rfl := Conversion.mem_dateTypes.mp ht <;> rfl
  rw [Value.isVast, Conversion.wholeSource?_of_not_isInteger hinteger]
  rfl

/-- Without a rule the value comes through as it is. -/
theorem Unruled.converted (h : s.Unruled t) :
    (Value.scalar s).converted t = .ok (.scalar s.unwrapped) := by
  obtain ⟨hnull, htype, hrule⟩ := id h
  have hobject : t ≠ .object := by
    rintro rfl
    simp [Conversion.dateTypes] at hrule
  have hpassed : Conversion.scalar? s.unwrapped t = some s.unwrapped := by
    rcases hrule with rfl | ⟨ht, htemporal⟩
    · rfl
    · exact Conversion.scalar?_of_not_temporal ht htemporal
  rw [Value.converted_scalar hnull hobject htype h.not_isVast, hpassed]

/-- Without a rule the value is not of the type either. -/
theorem Unruled.not_derivesFrom (h : s.Unruled t) : s.unwrapped.type.derivesFrom t = false := by
  obtain ⟨-, htype, rfl | ⟨ht, htemporal⟩⟩ := h
  · cases s with
    | machineBool b => exact absurd rfl htype
    | machineMoment m => cases m <;> rfl
    | _ => rfl
  · have hdate : s.unwrapped.type.derivesFrom .date = false := (Bool.or_eq_false_iff.mp htemporal).1
    obtain rfl | rfl := Conversion.mem_dateTypes.mp ht
    · exact hdate
    · generalize s.unwrapped.type = t at hdate
      cases t <;> first | rfl | exact (Bool.false_ne_true hdate.symm).elim

/-- Where the type has a rule for the value and room for it, the rule keeps to the type. -/
theorem keeps_of_ruled (ht : t ∈ NativeType.declarable) (hruled : ¬s.Unruled t)
    (hvast : (Value.scalar s).isVast t = false) : s.Keeps t ((Value.scalar s).converted t) := by
  by_cases hnull : s = null
  · subst hnull
    exact .nothing rfl
  by_cases htype : s.type = t
  · subst htype
    have hself : (Value.scalar s).converted s.type = .ok (.scalar s) := Value.converted_self (.scalar s)
    rw [hself]
    exact .declared hnull (NativeType.derivesFrom_refl _)
  have hobject : t ≠ .object := by
    rintro rfl
    exact absurd ht (by decide)
  rw [Value.converted_scalar hnull hobject htype hvast]
  cases hresult : Conversion.scalar? s.unwrapped t with
  | none => exact .refused hnull
  | some w =>
      refine .declared hnull ?_
      rcases List.mem_cons.mp ht with rfl | ht
      · exact absurd ⟨hnull, htype, .inl rfl⟩ hruled
      rcases List.mem_append.mp ht with ht | ht
      · have htemporal : s.unwrapped.type.isTemporal = true := by
          by_contra hother
          exact hruled ⟨hnull, htype, .inr ⟨ht, by simpa using hother⟩⟩
        exact Conversion.derivesFrom_of_temporal ht htemporal hresult
      · rw [Conversion.type_of_scalar? ht hresult]
        exact NativeType.derivesFrom_refl t

theorem Unruled.not_keeps (h : s.Unruled t) : ¬s.Keeps t (.ok (.scalar s.unwrapped)) := by
  intro hkeeps
  have hother := h.not_derivesFrom
  generalize hresult : (Except.ok (Value.scalar s.unwrapped) : Except Failure Value) = result at hkeeps
  cases hkeeps with
  | nothing hnull => exact h.1 hnull
  | declared hnull hw =>
      obtain rfl := Value.scalar.inj (Except.ok.inj hresult)
      exact Bool.false_ne_true (hother.symm.trans hw)
  | refused => contradiction

end Scalar

/-- Fields of the declared types, however these are wrapped, and all values that a row can hold: null,
a value of the type or a refusal is what the field is given except where the type has no rule for the
value, which then comes through as it is, and where there is no room for the whole number it stands for. -/
theorem Hint.convert_keeps_iff {h : Hint} {t : NativeType} (hwraps : h.Wraps t)
    (ht : t ∈ NativeType.declarable) (s : Scalar) :
    (s.Keeps t (h.convert (.scalar s)) ↔ ¬s.Unruled t ∧ (Value.scalar s).isVast t = false) ∧
      (s.Unruled t → h.convert (.scalar s) = .ok (.scalar s.unwrapped)) ∧
      ((Value.scalar s).isVast t = true → h.convert (.scalar s) = .error .outOfMemory) := by
  rw [hwraps.convert_eq]
  refine ⟨⟨fun hkeeps => ⟨fun hunruled => ?_, ?_⟩, fun ⟨hruled, hvast⟩ =>
    Scalar.keeps_of_ruled ht hruled hvast⟩, fun hunruled => hunruled.converted,
    Scalar.converted_of_isVast⟩
  · rw [hunruled.converted] at hkeeps
    exact hunruled.not_keeps hkeeps
  · by_contra hvast
    rw [Scalar.converted_of_isVast (by simpa using hvast)] at hkeeps
    cases hkeeps

namespace Hint

theorem convert_keeps_optional_date :
    (Hint.type .date).optional.Wraps .date ∧ .date ∈ NativeType.declarable ∧
      (Scalar.text "2024-05-06").Keeps .date ((Hint.type .date).optional.convert (.text "2024-05-06")) := by
  have hwraps : (Hint.type .date).optional.Wraps .date := .optional .bare
  have hdeclarable : .date ∈ NativeType.declarable := by decide
  have hruled : ¬(Scalar.text "2024-05-06").Unruled .date := by
    rintro ⟨-, -, hmachine | ⟨-, hother⟩⟩ <;> contradiction
  exact ⟨hwraps, hdeclarable, (convert_keeps_iff hwraps hdeclarable _).1.mpr ⟨hruled, rfl⟩⟩

/-- A number stays a number in the field of a date. -/
theorem convert_int_as_date :
    Hint.convert (.type .date) (.int 5) = .ok (.int 5) ∧
      ¬(Scalar.int 5).Keeps .date (Hint.convert (.type .date) (.int 5)) := by
  have hunruled : (Scalar.int 5).Unruled .date := ⟨nofun, nofun, .inr ⟨by decide, rfl⟩⟩
  have hsame : Hint.convert (.type .date) (.int 5) = .ok (.int 5) := hunruled.converted
  exact ⟨hsame, hsame ▸ hunruled.not_keeps⟩

end Hint

end RelationalMapper
