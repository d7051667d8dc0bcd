import RelationalMapper.Number.Binary

/-!
The text of a floating-point number: the fewest digits that read back as the same number, the
nearest such digits to it, and their layout. A candidate is tested by rounding it to the format, so
the digits chosen read back by construction.
-/

namespace RelationalMapper.Number.Shortest

/-- The fraction `coefficient · 10 ^ exponent`. -/
def tenFold (coefficient : Nat) (exponent : Int) : Nat × Nat :=
  (coefficient * Nat.pow 10 exponent.toNat, Nat.pow 10 (-exponent).toNat)

/-- Reading the digits gives the number back. -/
def readsBack (format : FloatFormat) (num den : Nat) (coefficient : Nat) (exponent : Int) : Bool :=
  let (n, d) := tenFold coefficient exponent
  format.round false n d == format.round false num den

/-- The place before the leading digit: the number lies below ten to this power and not below a
tenth of it. The search starts one below the estimate that the length in bits gives. -/
def leadingPlace (num den : Nat) : Int :=
  let guess := ((binaryLength num den - 1) * 30103).fdiv 100000
  let below (k : Int) : Bool := num * Nat.pow 10 (-k).toNat < den * Nat.pow 10 k.toNat
  (([0, 1, 2].map (guess + ·)).find? below).getD (guess + 3)

/-- The multiple of `10 ^ place` that reads back: of two, the nearer to the number, and of two
equally near ones the even one. -/
def onGrid? (format : FloatFormat) (num den : Nat) (place : Int) : Option (Nat × Int) :=
  let n := num * Nat.pow 10 (-place).toNat
  let d := den * Nat.pow 10 place.toNat
  let lower := n / d
  let lowerReads := readsBack format num den lower place
  let upperReads := readsBack format num den (lower + 1) place
  if lowerReads && upperReads then some (roundHalfEven n d, place)
  else if lowerReads then some (lower, place)
  else if upperReads then some (lower + 1, place)
  else none

/-- No format needs more digits than this. -/
def mostDigits : Nat := 21

/-- The chosen coefficient and the exponent of its last digit. -/
def decimal (format : FloatFormat) (num den : Nat) : Nat × Int :=
  let leading := leadingPlace num den
  ((List.range mostDigits).findSome? fun (i : Nat) => onGrid? format num den (leading - 1 - i)).getD
    (num / den, 0)

/-! ### Layout -/

/-- How the digits of a floating-point number are laid out: positional from `10 ^ -zeros` on and
below `10 ^ places`, and otherwise with one digit before the point and an exponent of at least
`exponentWidth` digits. The number itself is compared with the bounds, not its digits. -/
structure Layout where
  zeros : Nat
  places : Nat
  exponentWidth : Nat

/-- Positional from a ten-thousandth on, up to sixteen places in double precision and beyond, up to
six in single and up to three in half precision; two digits of exponent. -/
def layout : FloatFormat → Layout
  | .double | .extended => ⟨4, 16, 2⟩
  | .single => ⟨4, 6, 2⟩
  | .half => ⟨4, 3, 2⟩

def Layout.isPositional (l : Layout) (num den : Nat) : Bool :=
  den ≤ num * Nat.pow 10 l.zeros && num < den * Nat.pow 10 l.places

def dropTrailingZeros (ds : List Char) : List Char := (ds.reverse.dropWhile (· = '0')).reverse

/-- Digits whose point stands behind place `place`; a whole number keeps one zero behind it. -/
def positional (place : Int) (ds : List Char) : List Char :=
  if place ≤ 0 then '0' :: '.' :: (List.replicate (-place).toNat '0' ++ ds)
  else if ds.length ≤ place.toNat then
    ds ++ List.replicate (place.toNat - ds.length) '0' ++ ['.', '0']
  else ds.take place.toNat ++ '.' :: ds.drop place.toNat

def scientific (exponentWidth : Nat) (place : Int) (ds : List Char) : List Char :=
  let e := place - 1
  Decimal.pointed 1 ds
    ++ 'e' :: (if e < 0 then '-' else '+') :: padLeft exponentWidth (natChars e.natAbs)

def magnitudeChars (format : FloatFormat) (num den : Nat) : List Char :=
  if num = 0 then ['0', '.', '0']
  else
    let (coefficient, last) := decimal format num den
    let written := natChars coefficient
    let place := last + written.length
    let ds := dropTrailingZeros written
    if (layout format).isPositional num den then positional place ds
    else scientific (layout format).exponentWidth place ds

def chars (format : FloatFormat) : Binary → List Char
  | .finite negative mantissa exponent =>
    let (num, den) := Binary.fraction mantissa exponent
    Decimal.signChars negative ++ magnitudeChars format num den
  | .infinite negative => Decimal.signChars negative ++ "inf".toList
  | .nan => "nan".toList

end Shortest

/-- The text of a floating-point number of a format. -/
def Floating.text {format : FloatFormat} (x : Floating format) : String :=
  String.ofList (Shortest.chars format x.value)

end RelationalMapper.Number
