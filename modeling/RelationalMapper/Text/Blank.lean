/-!
Blank characters and trimming. Blank are the white-space characters of every script together with
the ASCII controls from tab to carriage return and the four information separators.
-/

namespace RelationalMapper.Text

/-- The code points that count as blank, as closed ranges. -/
def blankRanges : List (Nat × Nat) := [
  (0x9, 0xD), (0x1C, 0x20), (0x85, 0x85), (0xA0, 0xA0), (0x1680, 0x1680), (0x2000, 0x200A),
  (0x2028, 0x2029), (0x202F, 0x202F), (0x205F, 0x205F), (0x3000, 0x3000)]

def isBlank (c : Char) : Bool :=
  blankRanges.any fun (first, last) => first ≤ c.toNat && c.toNat ≤ last

/-- The information separators are no blanks around a numeral. -/
def isNumeralBlank (c : Char) : Bool := isBlank c && !(0x1C ≤ c.toNat && c.toNat ≤ 0x1F)

/-- The text without what counts as blank at both ends. -/
def trimBy (blank : Char → Bool) (text : List Char) : List Char :=
  ((text.dropWhile blank).reverse.dropWhile blank).reverse

def trimChars (text : List Char) : List Char := trimBy isBlank text

def trim (text : String) : String := String.ofList (trimChars text.toList)

example : isBlank ' ' = true ∧ isBlank '\n' = true ∧ isBlank 'x' = false := by decide

end RelationalMapper.Text
