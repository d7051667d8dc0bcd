import RelationalMapper.Calendar.Clock
import RelationalMapper.Calendar.Date

/-!
Points in time: a date with a time of day, its offset from universal time if that is known, and the
same with nanoseconds.
-/

namespace RelationalMapper.Calendar

open Number

/-- A time of day that may know its offset. -/
structure DayTime where
  clock : Clock
  offset : Option Offset := none
  deriving DecidableEq, Inhabited

structure DateTime where
  date : Date
  clock : Clock
  offset : Option Offset := none
  deriving DecidableEq, Inhabited

/-- A point in time to the nanosecond. -/
structure Timestamp where
  moment : DateTime
  nanosecond : Fin 1000 := 0
  deriving DecidableEq, Inhabited

def offsetChars (offset : Option Offset) : List Char := offset.elim [] Offset.chars

def DayTime.text (t : DayTime) : String := String.ofList (t.clock.chars ++ offsetChars t.offset)

/-- The date and the time of day with `separator` between them. -/
def DateTime.chars (separator : Char) (m : DateTime) : List Char :=
  m.date.chars ++ separator :: m.clock.chars ++ offsetChars m.offset

def DateTime.text (separator : Char) (m : DateTime) : String := String.ofList (m.chars separator)

/-- The start of a day. -/
def DateTime.ofDate (d : Date) : DateTime := { date := d, clock := Clock.midnight }

namespace Timestamp

def localChars (separator : Char) (t : Timestamp) : List Char :=
  t.moment.date.chars ++ separator :: t.moment.clock.wholeChars
    ++ Clock.fractionChars t.moment.clock.microsecond t.nanosecond

def text (separator : Char) (t : Timestamp) : String :=
  String.ofList (t.localChars separator ++ offsetChars t.moment.offset)

def ofDateTime (m : DateTime) : Timestamp := { moment := m }

/-- A point in time that does not know its offset is taken to be universal. -/
def anchored (t : Timestamp) : Timestamp :=
  { t with moment := { t.moment with offset := some (t.moment.offset.getD Offset.universal) } }

/-- Nanoseconds since the start of 1970, by universal time if the offset is known. -/
def nanoseconds (t : Timestamp) : Int :=
  let clock := t.moment.clock
  let seconds : Int := t.moment.date.dayNumber * 86400 + clock.hour * 3600 + clock.minute * 60
    + clock.second - t.moment.offset.elim 0 (·.seconds)
  seconds * 1000000000 + clock.microsecond * 1000 + t.nanosecond

/-- The nanoseconds of a number of them that do not fill a microsecond. -/
def belowMicrosecond (n : Nat) : Fin 1000 := Fin.ofNat 1000 n

/-- Nanoseconds since the start of 1970, as a point in time without an offset. -/
def ofNanoseconds? (n : Int) : Option Timestamp := do
  let day := n.fdiv 86400000000000
  let inDay := (n - day * 86400000000000).toNat
  let seconds := inDay / 1000000000
  let date ← Date.ofDayNumber? day
  let clock ← Clock.of? (seconds / 3600) (seconds / 60 % 60) (seconds % 60)
    (inDay / 1000 % 1000000)
  some { moment := { date, clock }, nanosecond := belowMicrosecond inDay }

end Timestamp

end RelationalMapper.Calendar
