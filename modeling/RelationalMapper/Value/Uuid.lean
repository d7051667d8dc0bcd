import RelationalMapper.Number.Numeral
import RelationalMapper.Text.Blank
import RelationalMapper.Text.Digit
import RelationalMapper.Text.Scan

/-!
Universally unique identifiers: numbers of 128 bits with a grouped hexadecimal text.
-/

namespace RelationalMapper

open Number

structure Uuid where
  value : Fin (Nat.pow 2 128)
  deriving DecidableEq, Inhabited

namespace Uuid

def chars (u : Uuid) : List Char :=
  let hex := hexChars 32 u.value
  let group (start count : Nat) := (hex.drop start).take count
  group 0 8 ++ '-' :: group 8 4 ++ '-' :: group 12 4 ++ '-' :: group 16 4 ++ '-' :: group 20 12

def text (u : Uuid) : String := String.ofList u.chars

def of? (n : Nat) : Option Uuid :=
  if h : n < Nat.pow 2 128 then some ⟨⟨n, h⟩⟩ else none

/-- A hexadecimal digit, or a decimal digit of another script. -/
def digit? (c : Char) : Option Nat := (hexDigit? c).or (Text.digitValue? c)

/-- What may stand before the digits of a hexadecimal number. -/
def dropBase : List Char → List Char
  | '0' :: 'x' :: '_' :: rest | '0' :: 'X' :: '_' :: rest => rest
  | '0' :: 'x' :: rest | '0' :: 'X' :: rest => rest
  | rest => rest

def readHexNumber? (input : List Char) : Option Nat :=
  let trimmed := Text.trimBy Text.isNumeralBlank input
  let unsigned := if trimmed.head? = some '+' then trimmed.drop 1 else trimmed
  (separatedDigits? digit? (dropBase unsigned)).map (ofDigits 16)

def isBrace (c : Char) : Bool := c = '\x7b' || c = '\x7d'

/-- The digits of a text without its scheme, braces and hyphens. -/
def bareChars (input : List Char) : List Char :=
  let unschemed := Text.without "uuid:".toList (Text.without "urn:".toList input)
  let unbraced := ((unschemed.dropWhile isBrace).reverse.dropWhile isBrace).reverse
  unbraced.filter (· ≠ '-')

/-- Thirty-two hexadecimal digits, grouped in any way. -/
def ofChars? (input : List Char) : Option Uuid :=
  let bare := bareChars input
  if bare.length = 32 then (readHexNumber? bare).bind of? else none

def ofText? (input : String) : Option Uuid := ofChars? input.toList

/-- Sixteen bytes, most significant first. -/
def ofBytes? (bytes : List UInt8) : Option Uuid :=
  if bytes.length = 16 then of? (ofDigits 256 (bytes.map UInt8.toNat)) else none

end Uuid

end RelationalMapper
