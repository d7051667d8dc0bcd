import RelationalMapper.Failure
import RelationalMapper.Text.Scan

/-!
Quoted identifiers: a name between an opening and a closing mark, the closing mark inside it written
twice. Main statement: what was quoted is read back.
-/

namespace RelationalMapper.Sql

structure Quotes where
  opening : Char
  closing : Char
  deriving Repr, DecidableEq, Inhabited

namespace Quotes

def backticks : Quotes := ⟨'\x60', '\x60'⟩

def doubleQuotes : Quotes := ⟨'"', '"'⟩

def brackets : Quotes := ⟨'[', ']'⟩

/-- The styles in the order in which a quoted text is compared with them. -/
def all : List Quotes := [backticks, doubleQuotes, brackets]

def quoteChars (q : Quotes) (name : List Char) : List Char :=
  q.opening :: Text.doubled q.closing name ++ [q.closing]

def quote (q : Quotes) (name : String) : String := String.ofList (q.quoteChars name.toList)

/-- The name inside a text that begins and ends with the marks of this style. -/
def unquoteChars? (q : Quotes) : List Char → Option (List Char)
  | [] => none
  | c :: rest =>
    if c = q.opening ∧ rest.getLast? = some q.closing then
      some (Text.undoubled q.closing rest.dropLast)
    else none

theorem unquoteChars?_quoteChars (q : Quotes) (name : List Char) :
    q.unquoteChars? (q.quoteChars name) = some name := by
  simp [quoteChars, unquoteChars?, Text.undoubled_doubled]

end Quotes

/-- The name inside a quoted identifier of any style. -/
def unquote (quoted : String) : Except Failure String :=
  match Quotes.all.findSome? (·.unquoteChars? quoted.toList) with
  | some name => .ok (String.ofList name)
  | none => .error (.argument (.unquotedIdentifier quoted))

end RelationalMapper.Sql
