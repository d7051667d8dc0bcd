import RelationalMapper.Calendar.Moment
import RelationalMapper.NativeType
import RelationalMapper.Number.Binary
import RelationalMapper.Value.Uuid

/-!
The values that fields hold, that statements bind and that rows bring back. A scalar has one native
type; a value of a type built on another one also has the plain value it stands for.
-/

namespace RelationalMapper

open Calendar Number

inductive Color where
  | red
  | green
  deriving Repr, DecidableEq, Inhabited

namespace Color

def number : Color → Int
  | red => 1
  | green => 2

def name : Color → String
  | red => "RED"
  | green => "GREEN"

def ofNumber? (n : Int) : Option Color := [red, green].find? (·.number = n)

end Color

/-- A point in time in a machine format; `width` is how much of its text the format keeps. -/
structure MachineMoment where
  stamp : Timestamp
  width : Nat
  deriving DecidableEq, Inhabited

/-- The format counts nanoseconds: its text goes beyond microseconds. -/
def MachineMoment.isCount (m : MachineMoment) : Bool := 26 < m.width

inductive Scalar where
  | null
  | bool (b : Bool)
  | int (n : Int)
  | float (x : Double)
  | text (s : String)
  | decimal (d : Decimal)
  | uuid (u : Uuid)
  | date (d : Date)
  | dateTime (m : DateTime)
  | time (t : DayTime)
  | timestamp (t : Timestamp)
  | bytes (b : List UInt8)
  | byteArray (b : List UInt8)
  | notAvailable
  | notATime
  | int64 (n : Int64)
  | int32 (n : Int32)
  | int16 (n : Int16)
  | int8 (n : Int8)
  | uint8 (n : UInt8)
  | float64 (x : Double)
  | float32 (x : Single)
  | machineBool (b : Bool)
  | machineMoment (m : Option MachineMoment)
  | refinedInt (n : Int)
  | refinedFloat (x : Double)
  | refinedText (s : String)
  | refinedDate (d : Date)
  | refinedDecimal (d : Decimal)
  | refinedBytes (b : List UInt8)
  | color (c : Color)
  | uint16 (n : UInt16)
  | uint32 (n : UInt32)
  | uint64 (n : UInt64)
  | float16 (x : Half)
  | extended (x : Extended)
  | refinedByteArray (b : List UInt8)
  | refinedUuid (u : Uuid)
  | refinedDateTime (m : DateTime)
  | refinedTime (t : DayTime)
  deriving DecidableEq, Inhabited

namespace Scalar

def type : Scalar → NativeType
  | null => .null | bool _ => .bool | int _ => .int | float _ => .float | text _ => .text
  | decimal _ => .decimal | uuid _ => .uuid | date _ => .date | dateTime _ => .dateTime
  | time _ => .time | timestamp _ => .timestamp | bytes _ => .bytes | byteArray _ => .byteArray
  | notAvailable => .notAvailable | notATime => .notATime
  | int64 _ => .int64 | int32 _ => .int32 | int16 _ => .int16 | int8 _ => .int8
  | uint8 _ => .uint8 | float64 _ => .float64 | float32 _ => .float32
  | machineBool _ => .machineBool | machineMoment _ => .machineMoment
  | refinedInt _ => .refinedInt | refinedFloat _ => .refinedFloat
  | refinedText _ => .refinedText | refinedDate _ => .refinedDate
  | refinedDecimal _ => .refinedDecimal | refinedBytes _ => .refinedBytes
  | color _ => .color
  | uint16 _ => .uint16 | uint32 _ => .uint32 | uint64 _ => .uint64
  | float16 _ => .float16 | extended _ => .extended
  | refinedByteArray _ => .refinedByteArray | refinedUuid _ => .refinedUuid
  | refinedDateTime _ => .refinedDateTime | refinedTime _ => .refinedTime

/-- The plain value that a value of a refined type stands for. -/
def plain : Scalar → Scalar
  | refinedInt n => int n
  | refinedFloat x => float x
  | refinedText s => text s
  | refinedDate d => date d
  | refinedDecimal d => decimal d
  | refinedBytes b => bytes b
  | color c => int c.number
  | refinedByteArray b => byteArray b
  | refinedUuid u => uuid u
  | refinedDateTime m => dateTime m
  | refinedTime t => time t
  | s => s

/-- The value without its machine format; no plain number holds an extended one. -/
def unwrapped : Scalar → Scalar
  | int64 n => int n.toInt
  | int32 n => int n.toInt
  | int16 n => int n.toInt
  | int8 n => int n.toInt
  | uint8 n => int n.toNat
  | uint16 n => int n.toNat
  | uint32 n => int n.toNat
  | uint64 n => int n.toNat
  | float64 x => float x
  | float32 x => float x.toDouble
  | float16 x => float (.ofBinary x.value)
  | machineBool b => bool b
  | machineMoment none => notATime
  | machineMoment (some m) => dateTime m.stamp.moment
  | s => s

/-- The scalar stands for no value: null, either missing mark, or not a number or point in time. -/
def isMissing : Scalar → Bool
  | null | notAvailable | notATime | machineMoment none => true
  | float x | float64 x | refinedFloat x => x.value.isNaN
  | float32 x => x.value.isNaN
  | float16 x => x.value.isNaN
  | extended x => x.value.isNaN
  | _ => false

end Scalar

inductive Value where
  | scalar (s : Scalar)
  | list (items : List Value)
  deriving Inhabited

namespace Value

instance : Coe Scalar Value := ⟨scalar⟩

mutual

def decideEq : (v w : Value) → Decidable (v = w)
  | scalar s, scalar t =>
    if h : s = t then isTrue (by rw [h]) else isFalse (by intro e; cases e; exact h rfl)
  | scalar _, list _ => isFalse nofun
  | list _, scalar _ => isFalse nofun
  | list vs, list ws =>
    match decideListEq vs ws with
    | isTrue h => isTrue (by rw [h])
    | isFalse h => isFalse (by intro e; cases e; exact h rfl)

def decideListEq : (vs ws : List Value) → Decidable (vs = ws)
  | [], [] => isTrue rfl
  | [], _ :: _ => isFalse nofun
  | _ :: _, [] => isFalse nofun
  | v :: vs, w :: ws =>
    match decideEq v w, decideListEq vs ws with
    | isTrue h, isTrue h' => isTrue (by rw [h, h'])
    | isFalse h, _ => isFalse (by intro e; cases e; exact h rfl)
    | _, isFalse h => isFalse (by intro e; cases e; exact h rfl)

end

instance : DecidableEq Value := decideEq

def null : Value := scalar .null

def int (n : Int) : Value := scalar (.int n)

def text (s : String) : Value := scalar (.text s)

def isNull (v : Value) : Bool := v = null

def type : Value → NativeType
  | scalar s => s.type
  | list _ => .list

def isMissing : Value → Bool
  | scalar s => s.isMissing
  | list _ => false

end Value

end RelationalMapper
