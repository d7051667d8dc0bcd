/-!
The types that a field can be declared with and that a value can have, and their ancestry: a rule
for a type also covers the types derived from it unless they have a rule of their own.
-/

namespace RelationalMapper

/-- Machine integers have a fixed width, machine floating-point numbers a fixed format, of which the
extended one goes beyond the plain type; the refined types are an application's own, each built on a
plain one. -/
inductive NativeType where
  | object | anything | null
  | bool | int | float | text | bytes | byteArray | list | dictionary
  | decimal | uuid | date | dateTime | time | timestamp
  | int64 | int32 | int16 | int8 | uint8 | float64 | float32 | machineBool | machineMoment
  | refinedInt | refinedFloat | refinedText | refinedDate | refinedDecimal | refinedBytes
  | color
  | notAvailable | notATime
  | uint16 | uint32 | uint64 | float16 | extended
  | refinedByteArray | refinedUuid | refinedDateTime | refinedTime
  deriving Repr, DecidableEq, Inhabited

namespace NativeType

def all : List NativeType := [object, anything, null, bool, int, float, text, bytes, byteArray, list,
  dictionary, decimal, uuid, date, dateTime, time, timestamp, int64, int32, int16, int8, uint8,
  float64, float32, machineBool, machineMoment, refinedInt, refinedFloat, refinedText, refinedDate,
  refinedDecimal, refinedBytes, color, notAvailable, notATime, uint16, uint32, uint64, float16, extended,
  refinedByteArray, refinedUuid, refinedDateTime, refinedTime]

/-- The name under which a type stands in messages. -/
def label : NativeType → String
  | object => "object" | anything => "Any" | null => "NoneType"
  | bool => "bool" | int => "int" | float => "float" | text => "str" | bytes => "bytes"
  | byteArray => "bytearray" | list => "list" | dictionary => "dict"
  | decimal => "Decimal" | uuid => "UUID" | date => "date" | dateTime => "datetime"
  | time => "time" | timestamp => "Timestamp"
  | int64 => "int64" | int32 => "int32" | int16 => "int16" | int8 => "int8" | uint8 => "uint8"
  | float64 => "float64" | float32 => "float32" | machineBool => "bool"
  | machineMoment => "datetime64"
  | refinedInt => "SubInt" | refinedFloat => "SubFloat" | refinedText => "SubStr"
  | refinedDate => "SubDate" | refinedDecimal => "SubDecimal" | refinedBytes => "SubBytes"
  | color => "Color"
  | notAvailable => "NAType" | notATime => "NaTType"
  | uint16 => "uint16" | uint32 => "uint32" | uint64 => "uint64"
  | float16 => "float16" | extended => "longdouble"
  | refinedByteArray => "SubByteArray" | refinedUuid => "SubUUID"
  | refinedDateTime => "SubDateTime" | refinedTime => "SubTime"

/-- The type that a type is derived from, the common root apart. -/
def parent? : NativeType → Option NativeType
  | bool | refinedInt | color => some int
  | float64 | refinedFloat => some float
  | refinedText => some text
  | refinedBytes => some bytes
  | refinedByteArray => some byteArray
  | refinedUuid => some uuid
  | refinedDecimal => some decimal
  | dateTime | refinedDate => some date
  | timestamp | refinedDateTime => some dateTime
  | refinedTime => some time
  | _ => none

/-- The type and what it is derived from, nearest first. No chain is longer than three. -/
def ancestry (t : NativeType) : List NativeType :=
  t :: match t.parent? with
    | none => []
    | some p => p :: match p.parent? with
      | none => []
      | some g => [g]

/-- `t` is `base` or derived from it. -/
def derivesFrom (t base : NativeType) : Bool := base ∈ t.ancestry

/-- The integer types; the unsigned ones are not among them. -/
def integerTypes : List NativeType := [int, int64, int32, int16, int8]

def isInteger (t : NativeType) : Bool := integerTypes.any t.derivesFrom

/-- An integer type other than the truth values. -/
def hasIntegerAffinity (t : NativeType) : Bool := t ≠ bool && t.isInteger

theorem self_mem_ancestry (t : NativeType) : t ∈ t.ancestry := List.mem_cons_self

theorem derivesFrom_refl (t : NativeType) : t.derivesFrom t = true := by
  simp [derivesFrom, self_mem_ancestry]

end NativeType

end RelationalMapper
