import RelationalMapper.Dialect.Basic
import RelationalMapper.Mapping.TableMap
import RelationalMapper.Text.SnakeCase

/-!
Columns in queries: a column is named together with the alias of the table it belongs to, if that
table has one. The tables that a query may name columns of are its scope.
-/

namespace RelationalMapper

structure ColumnRef where
  qualifier : Option String
  column : String
  deriving Repr, DecidableEq, Inhabited

namespace Dialect

def columnText (d : Dialect) (c : ColumnRef) : String :=
  match c.qualifier with
  | some name => d.quote name ++ "." ++ d.quote c.column
  | none => d.quote c.column

/-- All columns of a table. -/
def starText (d : Dialect) (qualifier : Option String) : String :=
  match qualifier with
  | some name => d.quote name ++ ".*"
  | none => "*"

end Dialect

namespace TableMap

/-- The column of a property; what has none is named by the property in snake case. -/
def columnName (m : TableMap) (property : String) : String :=
  match m.column? property with
  | some name => if name = "" then Text.snakeCase property else name
  | none => Text.snakeCase property

end TableMap

/-- A table that a query reads, under its alias. -/
structure Source where
  map : TableMap
  aliasName : Option String
  deriving DecidableEq, Inhabited

namespace Source

/-- An empty alias is none. -/
def qualifier (s : Source) : Option String := s.aliasName.filter (· ≠ "")

def column (s : Source) (property : String) : ColumnRef :=
  { qualifier := s.qualifier, column := s.map.columnName property }

end Source

/-- The tables of a query under the names of their classes. -/
abbrev Scope := Entries Source

namespace Scope

def source (scope : Scope) (type : EntityClass) : Except Failure Source :=
  match Entries.get? scope type.name with
  | some s => .ok s
  | none => .error (.misuse (.outOfScope type.name))

end Scope

end RelationalMapper
