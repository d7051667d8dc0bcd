import RelationalMapper.Calendar.Reader
import RelationalMapper.Text.LetterCase
import RelationalMapper.Value.Integer

/-!
Conversion: the form in which a value from a result row enters a field of a declared type. Each
type has its rule; a value that the rule cannot read is refused, and a type without a rule takes
the value as it comes.
-/

namespace RelationalMapper

open Calendar Number

namespace Conversion

/-- The words that mean true. -/
def trueWords : List String := ["true", "t", "1", "yes", "y", "on"]

def integer? (s : Scalar) : Option Int := s.toInteger.toOption

def toBool? (s : Scalar) : Option Bool :=
  match s.plain with
  | .text t => some (trueWords.contains (Text.lower (Text.trim t)))
  | .bytes b => some (b.any (· ≠ 0))
  | p => (integer? p).map (· ≠ 0)

/-- A byte string must be valid text. -/
def toText? (s : Scalar) : Option String :=
  match s.plain with
  | .bytes b => String.fromUTF8? ⟨b.toArray⟩
  | _ => some s.plainText

/-- The decimal whose whole part enters a field of the type, if the rule of the type takes one. -/
def wholeSource? (s : Scalar) (target : NativeType) : Option Decimal :=
  match s.plain with
  | .decimal d => if target.isInteger then some d else none
  | .text t => if target.hasIntegerAffinity then Decimal.ofText? t else none
  | _ => none

/-- A text may hold any decimal, which loses its fraction. -/
def toInteger? (s : Scalar) : Option Int :=
  match s.plain with
  | .text t => (Decimal.ofText? t).bind Decimal.truncate?
  | _ => integer? s

/-- A signalling not-a-number cannot be converted. -/
def doubleOfDecimal? : Decimal → Option Double
  | .nan _ true _ => none
  | d => some (Floating.ofDecimal d)

def toDouble? (s : Scalar) : Option Double :=
  match s.plain with
  | .bool b => some (Floating.ofFraction false (if b then 1 else 0) 1)
  | .int n => Floating.ofInt? n
  | .float x => some x
  | .extended x => some (.ofBinary x.value)
  | .decimal d => doubleOfDecimal? d
  | .text t => Floating.ofText? (Text.trim t)
  | .bytes b | .byteArray b =>
    if b.all (·.toNat < 0x80) then Floating.ofText? (String.ofList (Integer.charsOfBytes b))
    else none
  | _ => none

/-- A decimal is read from the text of the value. -/
def toDecimal? (s : Scalar) : Option Decimal := Decimal.ofText? s.plainText

def toUuid? (s : Scalar) : Option Uuid :=
  match s.plain with
  | .bytes b | .byteArray b => (Uuid.ofBytes? b).or (Uuid.ofText? s.plainText)
  | _ => Uuid.ofText? s.plainText

/-- A point in time, or the mark of its absence. -/
inductive Instant where
  | none
  | at (t : Timestamp)
  deriving DecidableEq, Inhabited

/-- Texts that name no point in time. -/
def absentWords : List String := ["", "NaT", "nat", "NAT", "nan", "NaN", "NAN"]

/-- A count of nanoseconds has 64 bits, of which the smallest marks an absent point in time. -/
def isNanosecondCount (n : Int) : Bool := -Int.pow 2 63 < n && n < Int.pow 2 63

/-- A text that goes beyond microseconds names a point in time that can be counted in nanoseconds,
on the clock as well as in universal time. -/
def countedTimestamp? (text : String) : Option Timestamp :=
  (Timestamp.ofText? text).filter fun t =>
    fractionDigits text.toList ≤ 6
      || (isNanosecondCount t.nanoseconds
        && isNanosecondCount { t with moment := { t.moment with offset := none } }.nanoseconds)

/-- The smallest integer of 64 bits marks an absent point in time. -/
def instantOfNanoseconds? (n : Int) : Option Instant :=
  if n = -Int.pow 2 63 then some .none
  else if isNanosecondCount n then (Timestamp.ofNanoseconds? n).map .at
  else none

/-- A fraction of a nanosecond does not count. -/
def instantOfBinary? (x : Binary) : Option Instant :=
  if x.isNaN then some .none else x.truncate?.bind instantOfNanoseconds?

/-- A number counts nanoseconds; what knows no offset is taken to be universal. -/
def toInstant? (s : Scalar) : Option Instant :=
  match s.plain with
  | .notAvailable | .notATime => some .none
  | .int n => (instantOfNanoseconds? n).map anchor
  | .float x => (instantOfBinary? x.value).map anchor
  | .extended x => (instantOfBinary? x.value).map anchor
  | .date d => some (anchor (.at (.ofDateTime (.ofDate d))))
  | .dateTime m => some (anchor (.at (.ofDateTime m)))
  | .timestamp t => some (anchor (.at t))
  | .text t =>
    if absentWords.contains t then some .none
    else (countedTimestamp? t).map fun t => anchor (.at t)
  | _ => none
where
  anchor : Instant → Instant
    | .none => .none
    | .at t => .at t.anchored

/-- The scalar that an instant is read as. -/
def Instant.scalar : Instant → Scalar
  | none => .notATime
  | «at» t => .timestamp t

/-- What is not temporal passes unchanged. -/
def toDateTime? (s : Scalar) : Option Scalar :=
  match s.plain with
  | .timestamp t => some (.dateTime t.moment)
  | .date d => some (.dateTime (.ofDate d))
  | .text t => (DateTime.ofText? t).map .dateTime
  | _ => some s

/-- A date of a refined type is already a date. -/
def toDate? (s : Scalar) : Option Scalar :=
  match s.plain with
  | .timestamp t => some (.date t.moment.date)
  | .dateTime m => some (.date m.date)
  | .text t => (DateTime.ofText? t).map fun m => .date m.date
  | _ => some s

/-- Only a text is converted. -/
def toTime? (s : Scalar) : Option Scalar :=
  match s.plain with
  | .text t => (Clock.ofText? t).map fun clock => .time { clock }
  | _ => some s

/-- The integer in the width of the type, if it fits. -/
def narrow? (target : NativeType) (n : Int) : Option Scalar :=
  let within (bits : Nat) : Bool := -Int.pow 2 (bits - 1) ≤ n && n < Int.pow 2 (bits - 1)
  match target with
  | .int => some (.int n)
  | .refinedInt => some (.refinedInt n)
  | .int64 => if within 64 then some (.int64 (.ofInt n)) else none
  | .int32 => if within 32 then some (.int32 (.ofInt n)) else none
  | .int16 => if within 16 then some (.int16 (.ofInt n)) else none
  | .int8 => if within 8 then some (.int8 (.ofInt n)) else none
  | .color => (Color.ofNumber? n).map .color
  | _ => none

/-- The number in the format of the type. -/
def inFormat (target : NativeType) (x : Double) : Scalar :=
  match target with
  | .float32 => .float32 x.toSingle
  | .float64 => .float64 x
  | .refinedFloat => .refinedFloat x
  | _ => .float x

/-- Converts an unwrapped scalar by the rule of the target type. -/
def scalar? (s : Scalar) (target : NativeType) : Option Scalar :=
  match target with
  | .bool => (toBool? s).map .bool
  | .text => (toText? s).map .text
  | .int | .int64 | .int32 | .int16 | .int8 | .refinedInt | .color =>
    (toInteger? s).bind (narrow? target)
  | .float | .float64 | .float32 | .refinedFloat => (toDouble? s).map (inFormat target)
  | .decimal => (toDecimal? s).map .decimal
  | .uuid => (toUuid? s).map .uuid
  | .timestamp => (toInstant? s).map Instant.scalar
  | .dateTime => toDateTime? s
  | .date => toDate? s
  | .time => toTime? s
  | .anything => none
  | _ => some s

/-- A list has a text; of the other types those with a rule for any value refuse it. -/
def list? (items : List Value) (target : NativeType) : Option Value :=
  match target with
  | .text => some (.text (Value.list items).literal)
  | .bool | .int | .int64 | .int32 | .int16 | .int8 | .refinedInt | .color
  | .float | .float64 | .float32 | .refinedFloat | .decimal | .uuid | .timestamp | .anything =>
    none
  | _ => some (.list items)

end Conversion

/-- The rule of the type would compute a whole number for which there is no room. -/
def Value.isVast (v : Value) (target : NativeType) : Bool :=
  match v with
  | .scalar s => (Conversion.wholeSource? s.unwrapped target).any Decimal.isVast
  | .list _ => false

/-- A null enters every field, a value of the declared type needs no conversion, and every other
value is unwrapped and converted by the rule of the type. -/
def Value.converted (v : Value) (target : NativeType) : Except Failure Value :=
  if v = .null ∨ target = .object ∨ v.type = target then .ok v
  else if v.isVast target then .error .outOfMemory
  else
    let result : Option Value := match v with
      | .scalar s => (Conversion.scalar? s.unwrapped target).map .scalar
      | .list items => Conversion.list? items target
    match result with
    | some w => .ok w
    | none => .error (.conversion v target)

end RelationalMapper
