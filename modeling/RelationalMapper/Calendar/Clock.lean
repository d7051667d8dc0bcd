import RelationalMapper.Number.Numeral

/-!
The time of day to the microsecond, and offsets from universal time.
-/

namespace RelationalMapper.Calendar

open Number

structure Clock where
  hour : Fin 24
  minute : Fin 60
  second : Fin 60
  microsecond : Fin 1000000
  deriving DecidableEq, Inhabited

namespace Clock

def midnight : Clock := ⟨0, 0, 0, 0⟩

/-- The time of day that the numbers name, if each is in its range. -/
def of? (hour minute second microsecond : Nat) : Option Clock :=
  if h : hour < 24 ∧ minute < 60 ∧ second < 60 ∧ microsecond < 1000000 then
    some ⟨⟨hour, h.1⟩, ⟨minute, h.2.1⟩, ⟨second, h.2.2.1⟩, ⟨microsecond, h.2.2.2⟩⟩
  else none

theorem of?_eq (c : Clock) : of? c.hour c.minute c.second c.microsecond = some c := by
  simp [of?, c.hour.isLt, c.minute.isLt, c.second.isLt, c.microsecond.isLt]

def two (n : Nat) : List Char := padLeft 2 (natChars n)

/-- Hours, minutes and seconds. -/
def wholeChars (c : Clock) : List Char :=
  two c.hour ++ ':' :: two c.minute ++ ':' :: two c.second

/-- The fraction of a second is written with nine digits if there are nanoseconds, with six if
there are only microseconds, and else not at all. -/
def fractionChars (microsecond nanosecond : Nat) : List Char :=
  if nanosecond ≠ 0 then
    '.' :: padLeft 6 (natChars microsecond) ++ padLeft 3 (natChars nanosecond)
  else if microsecond ≠ 0 then '.' :: padLeft 6 (natChars microsecond)
  else []

def chars (c : Clock) : List Char := c.wholeChars ++ fractionChars c.microsecond 0

end Clock

/-- A distance from universal time of less than a day, in seconds, positive to the east. -/
structure Offset where
  seconds : Int
  valid : -86400 < seconds ∧ seconds < 86400
  deriving DecidableEq

namespace Offset

def universal : Offset := ⟨0, by decide⟩

instance : Inhabited Offset := ⟨universal⟩

def of? (seconds : Int) : Option Offset :=
  if h : -86400 < seconds ∧ seconds < 86400 then some ⟨seconds, h⟩ else none

def signChar (o : Offset) : Char := if o.seconds < 0 then '-' else '+'

/-- Hours and minutes with `separator` between them, and seconds only if there are any. -/
def charsWith (separator : List Char) (o : Offset) : List Char :=
  let n := o.seconds.natAbs
  let s := n % 60
  o.signChar :: Clock.two (n / 3600) ++ separator ++ Clock.two (n / 60 % 60)
    ++ (if s = 0 then [] else separator ++ Clock.two s)

def chars (o : Offset) : List Char := o.charsWith [':']

/-- The name of the time zone at a fixed offset. -/
def zoneName (o : Offset) : String :=
  if o.seconds = 0 then "UTC" else String.ofList ("UTC".toList ++ o.chars)

end Offset

end RelationalMapper.Calendar
