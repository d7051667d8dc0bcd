import RelationalMapper.Calendar.Reader
import RelationalMapper.Number.Shortest
import RelationalMapper.Text.Quoted
import RelationalMapper.Value.Basic

/-!
The texts of a value: its literal, which shows the type, and its plain text, which shows only the
content. A parameter list uses a third form that prints a machine number with all the digits of the
double-precision number that is nearest to it.
-/

namespace RelationalMapper

open Calendar Number

/-- A name with arguments in parentheses. -/
def callText (name : String) (arguments : List String) : String :=
  name ++ "(" ++ Text.joined ", " arguments ++ ")"

namespace Calendar

def Date.arguments (d : Date) : List String := [natText d.year, natText d.month, natText d.day]

/-- The hour and minute, and the second and microsecond as far as they are not zero. -/
def Clock.arguments (c : Clock) : List String :=
  [natText c.hour, natText c.minute]
    ++ (if (c.second : Nat) = 0 ∧ (c.microsecond : Nat) = 0 then [] else [natText c.second])
    ++ (if (c.microsecond : Nat) = 0 then [] else [natText c.microsecond])

/-- Days and seconds, with the days alone below zero. -/
def Offset.arguments (o : Offset) : List String :=
  if o.seconds < 0 then ["days=-1", "seconds=" ++ intText (o.seconds + 86400)]
  else ["seconds=" ++ intText o.seconds]

def Offset.literal (o : Offset) : String :=
  if o.seconds = 0 then "datetime.timezone.utc"
  else callText "datetime.timezone" [callText "datetime.timedelta" o.arguments]

def offsetArguments (offset : Option Offset) : List String :=
  offset.elim [] fun o => ["tzinfo=" ++ o.literal]

def Date.literal (d : Date) : String := callText "datetime.date" d.arguments

def DayTime.arguments (t : DayTime) : List String :=
  t.clock.arguments ++ offsetArguments t.offset

def DayTime.literal (t : DayTime) : String := callText "datetime.time" t.arguments

def DateTime.arguments (m : DateTime) : List String :=
  m.date.arguments ++ m.clock.arguments ++ offsetArguments m.offset

def DateTime.literal (m : DateTime) : String := callText "datetime.datetime" m.arguments

/-- The offset stands in the text without a colon, and the zone's name behind it. -/
def Timestamp.literal (t : Timestamp) : String :=
  let local' := t.localChars ' '
  match t.moment.offset with
  | none => callText "Timestamp" [Text.quoted (String.ofList local')]
  | some o => callText "Timestamp"
    [Text.quoted (String.ofList (local' ++ o.charsWith [])), "tz=" ++ Text.quoted o.zoneName]

end Calendar

def MachineMoment.text (m : MachineMoment) : String :=
  let t := m.stamp
  let whole := t.moment.date.chars ++ 'T' :: t.moment.clock.wholeChars
  let fraction := '.' :: padLeft 6 (natChars t.moment.clock.microsecond)
    ++ padLeft 3 (natChars t.nanosecond)
  String.ofList ((whole ++ fraction).take m.width)

/-- A text that ends with the year, the month or the hour, with the first moment it covers. -/
def completed (input : String) : String :=
  if [4, 7, 13].contains input.length then
    String.ofList (input.toList ++ "0000-01-01T00:00".toList.drop input.length)
  else input

/-- A fraction of a second is kept in steps of three digits. -/
def MachineMoment.ofText? (input : String) : Option MachineMoment :=
  (Timestamp.ofText? (completed input)).map fun stamp =>
    { stamp
      width := if input.length ≤ 20 then input.length else 20 + (input.length - 18) / 3 * 3 }

def machineMomentText (m : Option MachineMoment) : String := m.elim "NaT" MachineMoment.text

def boolText (b : Bool) : String := if b then "True" else "False"

namespace Scalar

/-- The content of a scalar. -/
def plainText : Scalar → String
  | null => "None"
  | bool b | machineBool b => boolText b
  | int n | refinedInt n => intText n
  | float x | float64 x | refinedFloat x => x.text
  | float32 x => x.text
  | float16 x => x.text
  | extended x => x.text
  | text s | refinedText s => s
  | decimal d | refinedDecimal d => d.text
  | uuid u | refinedUuid u => u.text
  | date d | refinedDate d => d.text
  | dateTime m | refinedDateTime m => m.text ' '
  | time t | refinedTime t => t.text
  | timestamp t => t.text ' '
  | bytes b | refinedBytes b => Text.quotedBytes b
  | byteArray b => callText "bytearray" [Text.quotedBytes b]
  | refinedByteArray b => callText NativeType.refinedByteArray.label [Text.quotedBytes b]
  | notAvailable => "<NA>"
  | notATime => "NaT"
  | int64 n => intText n.toInt
  | int32 n => intText n.toInt
  | int16 n => intText n.toInt
  | int8 n => intText n.toInt
  | uint8 n => natText n.toNat
  | uint16 n => natText n.toNat
  | uint32 n => natText n.toNat
  | uint64 n => natText n.toNat
  | machineMoment m => machineMomentText m
  | color c => intText c.number

/-- A machine number names its format. -/
def machineLiteral (s : Scalar) : String := callText ("np." ++ s.type.label) [s.plainText]

/-- A scalar as it stands in messages. -/
def literal : Scalar → String
  | text s | refinedText s => Text.quoted s
  | decimal d | refinedDecimal d => callText "Decimal" [Text.quoted d.text]
  | uuid u => callText "UUID" [Text.quoted u.text]
  | refinedUuid u => callText NativeType.refinedUuid.label [Text.quoted u.text]
  | date d => d.literal
  | refinedDate d => callText NativeType.refinedDate.label d.arguments
  | dateTime m => m.literal
  | refinedDateTime m => callText NativeType.refinedDateTime.label m.arguments
  | time t => t.literal
  | refinedTime t => callText NativeType.refinedTime.label t.arguments
  | timestamp t => t.literal
  | machineBool b => "np." ++ boolText b ++ "_"
  | machineMoment m => callText "np.datetime64" [Text.quoted (machineMomentText m)]
  | color c => "<Color." ++ c.name ++ ": " ++ intText c.number ++ ">"
  | int64 n => machineLiteral (int64 n)
  | int32 n => machineLiteral (int32 n)
  | int16 n => machineLiteral (int16 n)
  | int8 n => machineLiteral (int8 n)
  | uint8 n => machineLiteral (uint8 n)
  | uint16 n => machineLiteral (uint16 n)
  | uint32 n => machineLiteral (uint32 n)
  | uint64 n => machineLiteral (uint64 n)
  | float64 x => machineLiteral (float64 x)
  | float32 x => machineLiteral (float32 x)
  | float16 x => machineLiteral (float16 x)
  | extended x => callText ("np." ++ NativeType.extended.label) [Text.quoted x.text]
  | s => s.plainText

/-- A scalar in a list of parameters. -/
def parameterText : Scalar → String
  | float32 x => x.toDouble.text
  | float16 x => (Floating.ofBinary x.value : Double).text
  | extended x => (Floating.ofBinary x.value : Double).text
  | s => s.plainText

end Scalar

namespace Value

mutual

def literal : Value → String
  | scalar s => s.literal
  | list items => "[" ++ Text.joined ", " (literals items) ++ "]"

def literals : List Value → List String
  | [] => []
  | v :: rest => v.literal :: literals rest

end

/-- The content of a value; inside a list each item shows its type. -/
def plainText : Value → String
  | scalar s => s.plainText
  | v => v.literal

def parameterText : Value → String
  | scalar s => s.parameterText
  | v => v.literal

end Value

end RelationalMapper
