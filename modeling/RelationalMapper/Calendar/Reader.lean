import RelationalMapper.Calendar.Moment
import RelationalMapper.Text.Blank
import RelationalMapper.Text.Digit

/-!
Reading dates and times. Each reader takes what it knows from the front of the text and hands back
the rest; a whole text is read when nothing is left.
-/

namespace RelationalMapper.Calendar

open Number

/-- Exactly `count` digits. -/
def readFixed? : (count : Nat) → List Char → Option (Nat × List Char)
  | 0, text => some (0, text)
  | count + 1, c :: text => do
    let d ← Text.asciiDigit? c
    let (n, rest) ← readFixed? count text
    some (d * Nat.pow 10 count + n, rest)
  | _ + 1, [] => none

def readMark? (mark : Char) : List Char → Option (Unit × List Char)
  | c :: rest => if c = mark then some ((), rest) else none
  | [] => none

/-- All digits at the front. -/
def readDigitRun : List Char → List Nat × List Char
  | [] => ([], [])
  | c :: rest =>
    match Text.asciiDigit? c with
    | some d => let (ds, tail) := readDigitRun rest; (d :: ds, tail)
    | none => ([], c :: rest)

/-- Year, month and day, with hyphens between them or without. -/
def readDate? (text : List Char) : Option (Date × List Char) := do
  let (year, rest) ← readFixed? 4 text
  match readMark? '-' rest with
  | some (_, rest) =>
    let (month, rest) ← readFixed? 2 rest
    let (_, rest) ← readMark? '-' rest
    let (day, rest) ← readFixed? 2 rest
    (Date.of? year month day).map (·, rest)
  | none =>
    let (month, rest) ← readFixed? 2 rest
    let (day, rest) ← readFixed? 2 rest
    (Date.of? year month day).map (·, rest)

/-- The first nine digits of a fraction, filled up with zeros, in units of the ninth place. -/
def nanoseconds (ds : List Nat) : Nat :=
  ofDigits 10 ((ds ++ List.replicate 9 0).take 9)

/-- The fraction of a second, if a point stands at the front. -/
def readFraction? (text : List Char) : Option (Nat × List Char) :=
  match readMark? '.' text with
  | some (_, rest) =>
    match readDigitRun rest with
    | ([], _) => none
    | (ds, rest) => some (nanoseconds ds, rest)
  | none => some (0, text)

/-- A time of day and the nanoseconds beyond its microseconds. -/
def finishClock? (hour minute second fraction : Nat) (rest : List Char) :
    Option ((Clock × Fin 1000) × List Char) :=
  (Clock.of? hour minute second (fraction / 1000)).map fun clock =>
    ((clock, Timestamp.belowMicrosecond fraction), rest)

/-- Hours and minutes with a colon between them, then seconds with a fraction if there are any. -/
def readClock? (text : List Char) : Option ((Clock × Fin 1000) × List Char) := do
  let (hour, rest) ← readFixed? 2 text
  let (_, rest) ← readMark? ':' rest
  let (minute, rest) ← readFixed? 2 rest
  match readMark? ':' rest with
  | some (_, rest) =>
    let (second, rest) ← readFixed? 2 rest
    let (fraction, rest) ← readFraction? rest
    finishClock? hour minute second fraction rest
  | none => finishClock? hour minute 0 0 rest

/-- Hours, minutes and seconds without marks. -/
def readCompactClock? (text : List Char) : Option ((Clock × Fin 1000) × List Char) := do
  let (hour, rest) ← readFixed? 2 text
  let (minute, rest) ← readFixed? 2 rest
  let (second, rest) ← readFixed? 2 rest
  finishClock? hour minute second 0 rest

/-- The seconds of an offset, which are seldom written. -/
def readOffsetSeconds? (text : List Char) : Option (Nat × List Char) :=
  match readMark? ':' text with
  | some (_, rest) => readFixed? 2 rest
  | none => some (0, text)

def readSignedOffset? (east : Bool) (text : List Char) : Option (Offset × List Char) := do
  let (hour, rest) ← readFixed? 2 text
  let (_, rest) ← readMark? ':' rest
  let (minute, rest) ← readFixed? 2 rest
  let (second, rest) ← readOffsetSeconds? rest
  let n : Int := hour * 3600 + minute * 60 + second
  (Offset.of? (if east then n else -n)).map (·, rest)

/-- The offset that ends a text: none at all, the letter of universal time, or a signed one. -/
def readOffset? : List Char → Option (Option Offset × List Char)
  | [] => some (none, [])
  | c :: rest =>
    if c = 'Z' then some (some Offset.universal, rest)
    else if c = '+' then (readSignedOffset? true rest).map fun (o, rest) => (some o, rest)
    else if c = '-' then (readSignedOffset? false rest).map fun (o, rest) => (some o, rest)
    else none

def whole? {α : Type} : Option (α × List Char) → Option α
  | some (a, []) => some a
  | _ => none

/-- A date, or a date and a time of day with a blank or the letter T between them. -/
def readTimestamp? (text : List Char) : Option Timestamp := do
  let (date, rest) ← readDate? text
  match rest with
  | [] => some (.ofDateTime (.ofDate date))
  | c :: rest =>
    if c = ' ' ∨ c = 'T' then
      let ((clock, nanosecond), rest) ← (readClock? rest).or (readCompactClock? rest)
      let offset ← whole? (readOffset? rest)
      some { moment := { date, clock, offset }, nanosecond }
    else none

/-- As `readTimestamp?`, less the nanoseconds. -/
def readDateTime? (text : List Char) : Option DateTime := (readTimestamp? text).map (·.moment)

/-- The hour on the clock that a half-day hour means: twelve begins each half. -/
def fullDayHour (afternoon : Bool) (hour : Nat) : Nat :=
  if afternoon then if hour < 12 then hour + 12 else hour
  else if hour = 12 then 0 else hour

/-- The mark of a half day at the end, with or without blanks before it. -/
def readHalfDay? (text : List Char) : Option (Option Bool) :=
  let word := (Text.trimChars text).map Char.toLower
  if word = ['a', 'm'] then some (some false)
  else if word = ['p', 'm'] then some (some true)
  else none

/-- A time of day with an offset, or with the mark of a half day. -/
def readDayTime? (text : List Char) : Option DayTime := do
  let ((clock, _), rest) ← readClock? text
  match whole? (readOffset? rest) with
  | some offset => some { clock, offset }
  | none =>
    let half ← readHalfDay? rest
    let afternoon ← half
    if (clock.hour : Nat) ≤ 12 then
      (Clock.of? (fullDayHour afternoon clock.hour) clock.minute clock.second clock.microsecond).map
        fun clock => { clock }
    else none

/-- How many digits the first fraction in a text has. -/
def fractionDigits (text : List Char) : Nat :=
  (readDigitRun ((text.dropWhile (· ≠ '.')).drop 1)).1.length

def Date.ofText? (text : String) : Option Date := whole? (readDate? text.toList)

def DateTime.ofText? (text : String) : Option DateTime := readDateTime? text.toList

def Timestamp.ofText? (text : String) : Option Timestamp := readTimestamp? text.toList

def DayTime.ofText? (text : String) : Option DayTime := readDayTime? text.toList

/-- The time of day of a text that holds one, alone or behind a date. -/
def Clock.ofText? (text : String) : Option Clock :=
  ((DayTime.ofText? text).map (·.clock)).or ((DateTime.ofText? text).map (·.clock))

end RelationalMapper.Calendar
