import RelationalMapper.Number.Numeral

/-!
Calendar dates from the year 1 to the year 9999, and their count of days since 1970-01-01.
-/

namespace RelationalMapper.Calendar

open Number

def isLeap (year : Nat) : Bool := year % 4 = 0 && (year % 100 ≠ 0 || year % 400 = 0)

def monthLength (year month : Nat) : Nat :=
  if month = 2 then if isLeap year then 29 else 28
  else if month = 4 ∨ month = 6 ∨ month = 9 ∨ month = 11 then 30
  else 31

def InCalendar (year month day : Nat) : Prop :=
  1 ≤ year ∧ year ≤ 9999 ∧ 1 ≤ month ∧ month ≤ 12 ∧ 1 ≤ day ∧ day ≤ monthLength year month

instance (year month day : Nat) : Decidable (InCalendar year month day) := by
  unfold InCalendar; infer_instance

structure Date where
  year : Nat
  month : Nat
  day : Nat
  valid : InCalendar year month day
  deriving DecidableEq

namespace Date

def of? (year month day : Nat) : Option Date :=
  if h : InCalendar year month day then some ⟨year, month, day, h⟩ else none

theorem of?_eq (d : Date) : of? d.year d.month d.day = some d := by
  simp [of?, d.valid]

def epoch : Date := ⟨1970, 1, 1, by decide⟩

instance : Inhabited Date := ⟨epoch⟩

/-! ### Days since the epoch -/

/-- Days from 0000-03-01 to the first of March of a year. -/
def marchDays (year : Int) : Int :=
  365 * year + year.fdiv 4 - year.fdiv 100 + year.fdiv 400

/-- Days from the first of March to the first of the month that comes `index` months later. -/
def monthDays (index : Int) : Int := (153 * index + 2).fdiv 5

/-- Days from 0000-03-01 to 1970-01-01. -/
def epochDays : Int := 719468

/-- Years are counted from March, so that the leap day ends one. -/
def dayNumber (d : Date) : Int :=
  let fromMarch : Int := if 3 ≤ d.month then d.month - 3 else d.month + 9
  let year : Int := if 3 ≤ d.month then d.year else d.year - 1
  marchDays year + monthDays fromMarch + (d.day - 1) - epochDays

/-- The date a number of days after the epoch, if it is in the calendar. -/
def ofDayNumber? (n : Int) : Option Date :=
  let days := n + epochDays
  let era := days.fdiv 146097
  let inEra := days - era * 146097
  let yearOfEra := (inEra - inEra / 1460 + inEra / 36524 - inEra / 146096) / 365
  let inYear := inEra - (365 * yearOfEra + yearOfEra / 4 - yearOfEra / 100)
  let fromMarch := (5 * inYear + 2) / 153
  let day := inYear - monthDays fromMarch + 1
  let month := if fromMarch < 10 then fromMarch + 3 else fromMarch - 9
  let year := yearOfEra + era * 400 + (if month ≤ 2 then 1 else 0)
  if year < 1 then none else of? year.toNat month.toNat day.toNat

example : dayNumber ⟨2024, 3, 1, by decide⟩ = 19783 := by decide

/-! ### Text -/

def chars (d : Date) : List Char :=
  padLeft 4 (natChars d.year) ++ '-' :: padLeft 2 (natChars d.month)
    ++ '-' :: padLeft 2 (natChars d.day)

def text (d : Date) : String := String.ofList d.chars

end Date

end RelationalMapper.Calendar
