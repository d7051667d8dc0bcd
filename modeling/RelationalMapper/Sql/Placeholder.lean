import RelationalMapper.Sql.Token

/-!
Placeholders: the marks at which a statement takes its parameters. Statements are written with
question marks; a driver with another mark gets that mark instead, and since such drivers read the
whole text as a format, every percent sign is doubled for them.
-/

namespace RelationalMapper.Sql

/-- The mark of statements before they reach a driver. -/
def questionMark : String := "?"

/-- A list of `count` question marks. -/
def markerList (count : Nat) : String :=
  Text.joined ", " (List.replicate count questionMark)

/-- What stands for a token in the driver's text. -/
def restyled (placeholder : List Char) (t : Token) : List Char :=
  match t.kind with
  | .marker => placeholder
  | _ => Text.doubled '%' t.chars

def restyle (placeholder : List Char) (sql : List Char) : List Char :=
  (scan sql).flatMap (restyled placeholder)

/-- The statement with the driver's mark for each question mark outside quoted text. -/
def standardize (placeholder sql : String) : String :=
  if sql = "" ∨ placeholder = questionMark then sql
  else String.ofList (restyle placeholder.toList sql.toList)

end RelationalMapper.Sql
