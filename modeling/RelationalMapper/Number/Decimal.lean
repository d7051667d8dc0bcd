import RelationalMapper.Number.Numeral
import RelationalMapper.Text.Blank
import RelationalMapper.Text.Digit

/-!
Decimal numbers as they are written: a sign, an integer coefficient and a power of ten, so that
trailing zeros and the exponent survive. Beside them stand the infinities and the quiet and
signalling not-a-number with their diagnostic digits.
-/

namespace RelationalMapper.Number

inductive Decimal where
  | finite (negative : Bool) (coefficient : Nat) (exponent : Int)
  | infinite (negative : Bool)
  | nan (negative signalling : Bool) (diagnostic : Option Nat)
  deriving Repr, DecidableEq, Inhabited

namespace Decimal

/-- No exponent of a leading digit exceeds this. -/
def maxExponent : Int := 999999999999999999

/-- No exponent of a coefficient lies below this. -/
def minExponent : Int := -1999999999999999997

/-! ### Writing -/

def exponentChars (e : Int) : List Char :=
  if 0 ≤ e then '+' :: natChars e.toNat else intChars e

/-- Puts a point after the first `place` digits. -/
def pointed (place : Nat) (ds : List Char) : List Char :=
  if place < ds.length then ds.take place ++ '.' :: ds.drop place else ds

/-- Positional while the exponent is not positive and the leading digit stands no further right
than the sixth place behind the point, else with one digit before the point. -/
def finiteChars (coefficient : Nat) (exponent : Int) : List Char :=
  let ds := natChars coefficient
  let leading := exponent + ds.length
  if exponent ≤ 0 ∧ -6 < leading then
    if 0 < leading then pointed leading.toNat ds
    else '0' :: '.' :: (List.replicate (-leading).toNat '0' ++ ds)
  else
    pointed 1 ds ++ 'E' :: exponentChars (leading - 1)

def signChars (negative : Bool) : List Char := if negative then ['-'] else []

def chars : Decimal → List Char
  | finite negative coefficient exponent => signChars negative ++ finiteChars coefficient exponent
  | infinite negative => signChars negative ++ "Infinity".toList
  | nan negative signalling diagnostic =>
    signChars negative ++ (if signalling then ['s'] else []) ++ "NaN".toList
      ++ (diagnostic.elim [] natChars)

def text (d : Decimal) : String := String.ofList d.chars

/-- Greater than one: the leading digit stands left of the units, or it stands in their place and
other digits than a one follow or lead. -/
def exceedsOne : Decimal → Bool
  | finite negative coefficient exponent =>
    let ds := natChars coefficient
    let leading := exponent + ds.length
    !negative && coefficient ≠ 0
      && (1 < leading || (leading = 1 && coefficient ≠ Nat.pow 10 (ds.length - 1)))
  | infinite negative => !negative
  | nan .. => false

/-- Less than one: negative or zero, or the leading digit stands right of the units. -/
def isBelowOne : Decimal → Bool
  | finite negative coefficient exponent =>
    negative || coefficient = 0 || exponent + (natChars coefficient).length < 1
  | infinite negative => negative
  | nan .. => false

/-! ### Reading -/

/-- The longest run of digits at the front, with what follows it. -/
def readDigits : List Char → List Nat × List Char
  | [] => ([], [])
  | c :: rest =>
    match Text.digitValue? c with
    | some d => let (ds, tail) := readDigits rest; (d :: ds, tail)
    | none => ([], c :: rest)

def readSign : List Char → Bool × List Char
  | '-' :: rest => (true, rest)
  | '+' :: rest => (false, rest)
  | rest => (false, rest)

/-- An optional exponent that ends the text. -/
def readExponent? : List Char → Option Int
  | [] => some 0
  | c :: rest =>
    if c = 'e' || c = 'E' then
      let (negative, rest) := readSign rest
      match readDigits rest with
      | ([], _) => none
      | (ds, []) => some (if negative then -(ofDigits 10 ds : Int) else ofDigits 10 ds)
      | _ => none
    else none

/-- Digits with at most one point among them, then an exponent of any size. -/
def readUnbounded? (negative : Bool) (input : List Char) : Option Decimal :=
  let (whole, rest) := readDigits input
  let (fraction, rest) := match rest with
    | '.' :: tail => readDigits tail
    | _ => ([], rest)
  if whole.isEmpty && fraction.isEmpty then none
  else (readExponent? rest).map fun e =>
    finite negative (ofDigits 10 (whole ++ fraction)) (e - fraction.length)

/-- Both ends of the number lie within the exponent limits. -/
def inRange : Decimal → Bool
  | finite _ coefficient exponent =>
    let leading := if coefficient = 0 then exponent
      else exponent + (natChars coefficient).length - 1
    leading ≤ maxExponent && minExponent ≤ exponent
  | _ => true

def readNumber? (negative : Bool) (input : List Char) : Option Decimal :=
  (readUnbounded? negative input).filter inRange

/-- The names of what is not a number take diagnostic digits behind them. -/
def readDiagnostic? (input : List Char) : Option (Option Nat) :=
  match readDigits input with
  | ([], []) => some none
  | (ds, []) => let n := ofDigits 10 ds; some (if n = 0 then none else some n)
  | _ => none

def readUnsigned? (negative : Bool) (input : List Char) : Option Decimal :=
  let word := input.map Char.toLower
  if word = "inf".toList || word = "infinity".toList then some (infinite negative)
  else if "nan".toList.isPrefixOf word then
    (readDiagnostic? (input.drop 3)).map (nan negative false)
  else if "snan".toList.isPrefixOf word then
    (readDiagnostic? (input.drop 4)).map (nan negative true)
  else readNumber? negative input

/-- Reads a decimal; blanks at the ends and underscores anywhere do not count. -/
def ofChars? (input : List Char) : Option Decimal :=
  let (negative, rest) := readSign ((Text.trimChars input).filter (· ≠ '_'))
  readUnsigned? negative rest

def ofText? (input : String) : Option Decimal := ofChars? input.toList

/-! ### Whole part -/

/-- The magnitude without its fraction. A power of ten is computed only where the result needs it:
a coefficient of no more bits than there are decimal places lies below one. -/
def wholeMagnitude (coefficient : Nat) : Int → Nat
  | .ofNat e => if coefficient = 0 then 0 else coefficient * Nat.pow 10 e
  | .negSucc e => if coefficient.log2 ≤ e then 0 else coefficient / Nat.pow 10 (e + 1)

theorem wholeMagnitude_ofNat (coefficient e : Nat) :
    wholeMagnitude coefficient (.ofNat e) = coefficient * Nat.pow 10 e := by
  by_cases h : coefficient = 0 <;> simp [wholeMagnitude, h]

theorem wholeMagnitude_negSucc (coefficient e : Nat) :
    wholeMagnitude coefficient (.negSucc e) = coefficient / Nat.pow 10 (e + 1) := by
  by_cases h : coefficient.log2 ≤ e
  · have below : coefficient < 10 ^ (e + 1) :=
      calc coefficient < 2 ^ (coefficient.log2 + 1) := Nat.lt_log2_self
        _ ≤ 2 ^ (e + 1) := Nat.pow_le_pow_right (by decide) (by omega)
        _ ≤ 10 ^ (e + 1) := Nat.pow_le_pow_left (by decide) _
    simp [wholeMagnitude, h, Nat.div_eq_of_lt below]
  · simp [wholeMagnitude, h]

def signed (negative : Bool) (n : Nat) : Int := if negative then -(n : Int) else n

/-- The number without its fraction, if it is finite. -/
def truncate? : Decimal → Option Int
  | finite negative coefficient exponent => some (signed negative (wholeMagnitude coefficient exponent))
  | _ => none

/-- A whole number of more places than this has no room. -/
def mostPlaces : Int := 10000000000

/-- The whole part is too long to be held. -/
def isVast : Decimal → Bool
  | finite _ coefficient exponent => coefficient ≠ 0 && mostPlaces < exponent
  | _ => false

def isZero : Decimal → Bool
  | finite _ coefficient _ => coefficient = 0
  | _ => false

end Decimal

end RelationalMapper.Number
