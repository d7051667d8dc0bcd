import RelationalMapper.Text.LetterCase

/-!
Snake case: the column name that a property name stands for when nothing else names one.
-/

namespace RelationalMapper.Text

def isCapital (c : Char) : Bool := 'A' ≤ c && c ≤ 'Z'

/-- An underscore before every capital letter. -/
def parted : List Char → List Char
  | [] => []
  | c :: rest => if isCapital c then '_' :: c :: parted rest else c :: parted rest

/-- The words of a name in lower case, joined by underscores; a leading capital opens no word. -/
def snakeCase (name : String) : String :=
  match name.toList with
  | [] => ""
  | c :: rest => lower (String.ofList (c :: parted rest))

end RelationalMapper.Text
