import RelationalMapper.Failure

/-!
Reading a value as an integer: a number loses its fraction, a text must be a plain numeral of
limited length. Writing an integer keeps the same limit.
-/

namespace RelationalMapper

open Number

namespace Integer

/-- What a text says as a numeral. -/
inductive Reading where
  | integer (n : Int)
  /-- A run of more digits than a numeral may have. -/
  | tooLong (digits : Nat)
  | malformed
  deriving Repr, DecidableEq, Inhabited

/-- A decimal numeral with an optional sign; blanks at the ends do not count. A run of digits that
is too long is refused before what follows it is looked at. -/
def read (digit? : Char → Option Nat) (blank : Char → Bool) (input : List Char) : Reading :=
  let (negative, rest) := Decimal.readSign (input.dropWhile blank)
  match digitRun? digit? rest with
  | none => .malformed
  | some (ds, tail) =>
    if mostDigitsAsText < ds.length then .tooLong ds.length
    else if tail.all blank then .integer (Decimal.signed negative (ofDigits 10 ds))
    else .malformed

def ofText (s : String) : Reading := read Text.digitValue? Text.isNumeralBlank s.toList

/-- Each byte as the character of its code. -/
def charsOfBytes (bytes : List UInt8) : List Char := bytes.map fun b => Char.ofNat b.toNat

/-- A byte string holds a numeral of ASCII characters. -/
def ofBytes (bytes : List UInt8) : Reading :=
  read Text.asciiDigit? (fun c => c.toNat < 0x80 && Text.isNumeralBlank c) (charsOfBytes bytes)

def ofText? (s : String) : Option Int :=
  match ofText s with
  | .integer n => some n
  | _ => none

/-- The integer, or why `value` is not a numeral. -/
def Reading.result (value : Scalar) : Reading → Except Failure Int
  | integer n => .ok n
  | tooLong digits => .error (.argument (.longNumeral digits))
  | malformed => .error (.argument (.numeral value))

/-- The numeral of an integer that is not too long. -/
def numeral (n : Int) : Except Failure String :=
  if n.natAbs < Nat.pow 10 mostDigitsAsText then .ok (intText n) else .error (.argument .longInteger)

def ofBinary (x : Binary) : Except Failure Int :=
  match x.truncate? with
  | some n => .ok n
  | none => if x.isNaN then .error (.argument .floatNotANumber)
    else .error (.overflow "cannot convert float infinity to integer")

def ofDecimal : Decimal → Except Failure Int
  | .nan .. => .error (.argument .decimalNotANumber)
  | .infinite _ => .error (.overflow "cannot convert Infinity to integer")
  | d => if d.isVast then .error .outOfMemory else .ok (d.truncate?.getD 0)

/-- The name of a type with the module that it comes from. -/
def qualifiedLabel (t : NativeType) : String :=
  match t with
  | .date | .dateTime | .time => "datetime." ++ t.label
  | .decimal => "decimal." ++ t.label
  | _ => t.label

def notANumber (t : NativeType) : Failure :=
  .wrongType ("int() argument must be a string, a bytes-like object or a real number, not "
    ++ Text.quoted (qualifiedLabel t))

end Integer

/-- The count of nanoseconds, if the scalar is one in a machine format. -/
def Scalar.nanosecondCount? : Scalar → Option Int
  | machineMoment (some m) => if m.isCount then some m.stamp.nanoseconds else none
  | _ => none

/-- The integer that a scalar without a machine format stands for. -/
def Scalar.plainInteger (s : Scalar) : Except Failure Int :=
  match s.plain with
  | .bool b => .ok (if b then 1 else 0)
  | .int n => .ok n
  | .float x => Integer.ofBinary x.value
  | .extended x => Integer.ofBinary x.value
  | .decimal d => Integer.ofDecimal d
  | .uuid u => .ok u.value
  | .text t => (Integer.ofText t).result s
  | .bytes b | .byteArray b => (Integer.ofBytes b).result (.bytes b)
  | _ => .error (Integer.notANumber s.type)

def Scalar.toInteger (s : Scalar) : Except Failure Int :=
  match s.nanosecondCount? with
  | some n => .ok n
  | none => s.unwrapped.plainInteger

/-- The integer that a value stands for. -/
def Value.toInteger : Value → Except Failure Int
  | .scalar s => s.toInteger
  | .list _ => .error (Integer.notANumber .list)

end RelationalMapper
