import RelationalMapper.Dialect.Basic
import RelationalMapper.Mapping.TableMap

/-!
Statements that write rows by their columns: insertions of several rows, updates and deletions by
key. Each statement takes its parameters in the order in which its marks stand.
-/

namespace RelationalMapper

structure Insertion where
  table : String
  columns : List String
  rows : Nat
  /-- Columns that the statement gives back. -/
  returning : List String
  deriving Repr, DecidableEq, Inhabited

/-- Assigns columns in the row whose keys are given. -/
structure KeyedUpdate where
  table : String
  assigned : List String
  keys : List String
  deriving Repr, DecidableEq, Inhabited

/-- Which rows a deletion takes. -/
inductive RowChoice where
  /-- The row with these keys. -/
  | byKey (columns : List String)
  /-- The rows with one of `count` values in a column. -/
  | oneOf (column : String) (count : Nat)
  /-- The rows with one of `count` combinations of keys. -/
  | anyOf (columns : List String) (count : Nat)
  deriving Repr, DecidableEq, Inhabited

structure Deletion where
  table : String
  rows : RowChoice
  deriving Repr, DecidableEq, Inhabited

namespace Dialect

def columnList (d : Dialect) (columns : List String) : String :=
  Text.joined ", " (columns.map d.quote)

/-- `column = ?` for each column. -/
def bindings (d : Dialect) (columns : List String) : List String :=
  columns.map fun column => d.quote column ++ " = " ++ Sql.questionMark

def keyCondition (d : Dialect) (columns : List String) : String :=
  Text.joined " AND " (d.bindings columns)

def rowGroup (columns : Nat) : String := "(" ++ Sql.markerList columns ++ ")"

def returningClause (d : Dialect) (columns : List String) : String :=
  if columns = [] then "" else " RETURNING " ++ d.columnList columns

def renderInsertion (d : Dialect) (s : Insertion) : String :=
  "INSERT INTO " ++ d.quote s.table ++ " (" ++ d.columnList s.columns ++ ") VALUES "
    ++ Text.joined ", " (List.replicate s.rows (rowGroup s.columns.length))
    ++ d.returningClause s.returning

def renderUpdate (d : Dialect) (s : KeyedUpdate) : String :=
  "UPDATE " ++ d.quote s.table ++ " SET " ++ Text.joined ", " (d.bindings s.assigned)
    ++ " WHERE " ++ d.keyCondition s.keys

def renderChoice (d : Dialect) : RowChoice → String
  | .byKey columns => d.keyCondition columns
  | .oneOf column count => d.quote column ++ " IN (" ++ Sql.markerList count ++ ")"
  | .anyOf columns count =>
    Text.joined " OR " (List.replicate count ("(" ++ d.keyCondition columns ++ ")"))

def renderDeletion (d : Dialect) (s : Deletion) : String :=
  "DELETE FROM " ++ d.quote s.table ++ " WHERE " ++ d.renderChoice s.rows

/-- The columns of the keys that the database makes, where an insertion gives them back. -/
def returnedColumns (d : Dialect) (m : TableMap) : List String :=
  if d.returnsKeys then (m.keys.values.filter (·.auto)).map (·.column) else []

/-- What an insertion ends with to give its keys back. -/
def returningSuffix (d : Dialect) (m : TableMap) : String :=
  d.returningClause (d.returnedColumns m)

def insertion (d : Dialect) (m : TableMap) (columns : List String) (rows : Nat) : Insertion :=
  { table := m.table, columns, rows, returning := d.returnedColumns m }

end Dialect

/-- The update of every column of a table that is not a key. -/
def TableMap.keyedUpdate (m : TableMap) : KeyedUpdate :=
  { table := m.table, assigned := m.updateProperties.values
    keys := m.keys.values.map (·.column) }

end RelationalMapper
