import RelationalMapper.Value.Integer

/-!
Values as numbers: which values count as nothing, and how a value compares with one. Only numbers
can be compared, and of the numbers a decimal that is not a number cannot.
-/

namespace RelationalMapper

namespace Value

/-- A value that counts as nothing: null, false, zero, or empty. A machine's point in time counts
as nothing at the start of 1970. -/
def isFalsy : Value → Bool
  | list items => items.isEmpty
  | scalar (.machineMoment (some m)) => m.stamp.nanoseconds = 0
  | scalar s =>
    match s.unwrapped.plain with
    | .null => true
    | .bool b => !b
    | .int n => n = 0
    | .float x => x.value.isZero
    | .extended x => x.value.isZero
    | .decimal d => d.isZero
    | .text t => t = ""
    | .bytes b | .byteArray b => b.isEmpty
    | _ => false

/-- A comparison with one, by what it says of each kind of number. -/
def comparedToOne (ofInt : Int → Bool) (ofBinary : Number.Binary → Bool)
    (ofDecimal : Number.Decimal → Bool) : Value → Except Failure Bool
  | list _ => .error (.wrongType "a list is not a number")
  | scalar s =>
    match s.unwrapped.plain with
    | .bool b => .ok (ofInt (if b then 1 else 0))
    | .int n => .ok (ofInt n)
    | .float x => .ok (ofBinary x.value)
    | .extended x => .ok (ofBinary x.value)
    | .decimal (.nan ..) => .error .unordered
    | .decimal d => .ok (ofDecimal d)
    | _ => .error (.wrongType "the value is not a number")

/-- The value is more than one. -/
def exceedsOne : Value → Except Failure Bool :=
  comparedToOne (1 < ·) (·.exceeds 1) (·.exceedsOne)

/-- The value is less than one. -/
def isBelowOne : Value → Except Failure Bool :=
  comparedToOne (· < 1) (·.isBelow 1) (·.isBelowOne)

end Value

end RelationalMapper
