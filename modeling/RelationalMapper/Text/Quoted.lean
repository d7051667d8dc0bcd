import RelationalMapper.Number.Numeral
import RelationalMapper.Text.Printable

/-!
Quoted literals, the form in which texts and byte strings stand inside messages.
-/

namespace RelationalMapper.Text

open Number

/-- Single quotes, unless the text has a single quote and no double one. -/
def quoteFor (chars : List Char) : Char :=
  if '\'' ∈ chars ∧ '"' ∉ chars then '"' else '\''

/-- The escapes that texts and byte strings share. -/
def commonEscape? (quote c : Char) : Option (List Char) :=
  if c = quote || c = '\\' then some ['\\', c]
  else if c = '\t' then some ['\\', 't']
  else if c = '\n' then some ['\\', 'n']
  else if c = '\r' then some ['\\', 'r']
  else none

/-- A character without a visible form is written by its code, in two, four or eight digits. -/
def escapeChar (quote c : Char) : List Char :=
  match commonEscape? quote c with
  | some written => written
  | none =>
    if isPrintable c then [c]
    else if c.toNat < 0x100 then '\\' :: 'x' :: hexChars 2 c.toNat
    else if c.toNat < 0x10000 then '\\' :: 'u' :: hexChars 4 c.toNat
    else '\\' :: 'U' :: hexChars 8 c.toNat

def quotedChars (chars : List Char) : List Char :=
  let quote := quoteFor chars
  quote :: chars.flatMap (escapeChar quote) ++ [quote]

/-- The literal of a text. -/
def quoted (text : String) : String := String.ofList (quotedChars text.toList)

def escapeByte (quote : Char) (byte : UInt8) : List Char :=
  let c := Char.ofNat byte.toNat
  match commonEscape? quote c with
  | some written => written
  | none =>
    if 0x20 ≤ byte.toNat && byte.toNat < 0x7F then [c] else '\\' :: 'x' :: hexChars 2 byte.toNat

/-- The literal of a byte string. -/
def quotedBytes (bytes : List UInt8) : String :=
  let quote := quoteFor (bytes.map fun b => Char.ofNat b.toNat)
  String.ofList ('b' :: quote :: bytes.flatMap (escapeByte quote) ++ [quote])

end RelationalMapper.Text
