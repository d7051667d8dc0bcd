import RelationalMapper.Dialect.ColumnType

/-!
Schema statements: creating and dropping the table of a map. A table is a list of elements, one for
each column that takes part in statements and then the primary key, unless the dialect numbers the
only key inside its column definition.
-/

namespace RelationalMapper

structure ColumnElement where
  name : String
  type : String
  /-- What marks the column as numbered by the database. -/
  identity : Option String
  notNull : Bool
  default : Option String
  deriving Repr, DecidableEq, Inhabited

inductive TableElement where
  | column (c : ColumnElement)
  | primaryKey (columns : List String)
  deriving Repr, DecidableEq, Inhabited

namespace TableElement

def renderColumn (d : Dialect) (c : ColumnElement) : String :=
  Text.joined " " (d.quote c.name :: c.type :: c.identity.toList
    ++ (if c.notNull then ["NOT NULL"] else [])
    ++ c.default.toList.map ("DEFAULT " ++ ·))

def render (d : Dialect) : TableElement → String
  | column c => renderColumn d c
  | primaryKey columns => "PRIMARY KEY (" ++ Text.joined ", " (columns.map d.quote) ++ ")"

end TableElement

namespace Dialect

/-- The native type of a property's field, if it has one. -/
def nativeOf (m : TableMap) (property : String) : Option NativeType :=
  (m.fields.get? property).bind Hint.nativeType?

/-- The type of a property's column. -/
def typeOf (d : Dialect) (m : TableMap) (property : String) (detail : ColumnDetail) : String :=
  d.columnType (nativeOf m property) detail

def defaultOf (d : Dialect) (detail : ColumnDetail) : Option String :=
  if detail.default = .null then none else some (d.defaultLiteral detail.default)

/-- The database numbers the property's column. -/
def isNumbered (m : TableMap) (property : String) : Bool := (m.keys.get? property).any (·.auto)

/-- The definition of a column, with the dialect's mark if the database numbers it. -/
def columnElement (d : Dialect) (m : TableMap) (property column : String) : ColumnElement :=
  let detail := m.detailAt property column
  let type := d.typeOf m property detail
  let numbered := isNumbered m property
  let width? := if d = postgres ∧ numbered then identityWidth? (nativeOf m property) type else none
  { name := detail.name
    type := width?.getD type
    identity := match d with
      | postgres => width?.map fun _ => identityClause
      | sqlite => none
      | _ => if numbered then some (Text.trim d.autoClause) else none
    notNull := !detail.nullable
    default := d.defaultOf detail }

/-- The only key, if the database numbers it and its column is of type INTEGER. -/
def inlineKey? (d : Dialect) (m : TableMap) : Except Failure (Option String) :=
  match d, m.singleAutoKey? with
  | sqlite, some key =>
    match m.detail? key.property with
    | none => .error .unknownName
    | some detail =>
      .ok (if d.typeOf m key.property detail = "INTEGER" then some key.property else none)
  | _, _ => .ok none

/-- The definition of a key that is numbered inside it. -/
def inlineKeyElement (name : String) : ColumnElement :=
  { name, type := "INTEGER", identity := some "PRIMARY KEY AUTOINCREMENT", notNull := false
    default := none }

def keyElements (m : TableMap) : List TableElement :=
  if m.keys = [] then [] else [.primaryKey (m.keys.values.map (·.column))]

def elementsWith (d : Dialect) (m : TableMap) (inline : Option String) : List TableElement :=
  let columns := m.mapped.map fun (property, column) =>
    if some property = inline then
      TableElement.column (inlineKeyElement (m.detailAt property column).name)
    else .column (d.columnElement m property column)
  columns ++ (if inline = none then keyElements m else [])

/-- The elements of the table in the order in which they are written. -/
def elements (d : Dialect) (m : TableMap) : Except Failure (List TableElement) :=
  (d.inlineKey? m).map (d.elementsWith m)

/-- The name as it stands in a string literal. -/
def literalText (name : String) : String := String.ofList (Text.doubled '\'' name.toList)

def renderCreate (d : Dialect) (table guard : String) (elements : List TableElement) : String :=
  "CREATE TABLE" ++ guard ++ " " ++ d.quote table ++ " (\n  "
    ++ Text.joined ",\n  " (elements.map (·.render d)) ++ "\n)"

/-- A dialect without a guard of its own looks the table up first. -/
def createTable (d : Dialect) (m : TableMap) (guarded : Bool) : Except Failure String :=
  (d.elements m).map fun elements =>
    if guarded && !d.hasCreateGuard then
      "IF OBJECT_ID(N'" ++ literalText m.table ++ "', N'U') IS NULL\nBEGIN\n"
        ++ d.renderCreate m.table "" elements ++ "\nEND"
    else d.renderCreate m.table (if guarded then " IF NOT EXISTS" else "") elements

def dropTable (d : Dialect) (m : TableMap) (guarded : Bool) : String :=
  "DROP TABLE" ++ (if guarded then " IF EXISTS" else "") ++ " " ++ d.quote m.table

end Dialect

end RelationalMapper
