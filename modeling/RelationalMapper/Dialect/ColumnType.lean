import RelationalMapper.Dialect.Basic
import RelationalMapper.Mapping.TableMap

/-!
Column types: the SQL type of a field. An override comes first, then a precision, which asks for a
decimal, then the length of a text, then the type that the dialect has for the field's own type.
-/

namespace RelationalMapper.Dialect

open Number

def sized (name : String) (length : Int) : String := name ++ "(" ++ intText length ++ ")"

/-- A precision and a scale, which is at least zero. -/
def scaled (name : String) (precision scale : Int) : String :=
  name ++ "(" ++ intText precision ++ "," ++ intText (max 0 scale) ++ ")"

/-! ### Types of the dialects -/

def mySqlType? : NativeType → Option String
  | .int | .int64 => some "BIGINT" | .int32 => some "INT" | .int16 => some "SMALLINT"
  | .int8 => some "TINYINT" | .float | .float64 => some "DOUBLE" | .float32 => some "FLOAT"
  | .bool | .machineBool => some "TINYINT(1)" | .decimal => some "DECIMAL(38,10)"
  | .uuid => some "CHAR(36)" | .date => some "DATE" | .dateTime => some "DATETIME(6)"
  | .timestamp => some "DATETIME(6)" | _ => none

def postgresType? : NativeType → Option String
  | .int | .int64 => some "BIGINT" | .int32 => some "INTEGER" | .int16 => some "SMALLINT"
  | .int8 => some "SMALLINT" | .float | .float64 => some "DOUBLE PRECISION"
  | .float32 => some "REAL" | .bool | .machineBool => some "BOOLEAN"
  | .decimal => some "NUMERIC(38,10)" | .uuid => some "UUID" | .date => some "DATE"
  | .dateTime => some "TIMESTAMP(6)" | .timestamp => some "TIMESTAMP(6) WITH TIME ZONE"
  | _ => none

def sqliteType? : NativeType → Option String
  | .int | .int64 | .int32 | .int16 | .int8 | .bool | .machineBool => some "INTEGER"
  | .float | .float64 | .float32 => some "REAL" | .decimal => some "NUMERIC"
  | .uuid | .date | .dateTime | .timestamp | .text => some "TEXT" | _ => none

def sqlServerType? : NativeType → Option String
  | .int | .int64 => some "BIGINT" | .int32 => some "INT" | .int16 => some "SMALLINT"
  | .int8 => some "TINYINT" | .float | .float64 => some "FLOAT(53)" | .float32 => some "REAL"
  | .bool | .machineBool => some "BIT" | .decimal => some "DECIMAL(38,10)"
  | .uuid => some "UNIQUEIDENTIFIER" | .date => some "DATE" | .dateTime => some "DATETIME2(6)"
  | .timestamp => some "DATETIME2(6)" | _ => none

def ownType? : Dialect → NativeType → Option String
  | mySql => mySqlType?
  | postgres => postgresType?
  | sqlite => sqliteType?
  | sqlServer => sqlServerType?

/-- The type of the nearest ancestor that has one. -/
def builtinType? (d : Dialect) (t : NativeType) : Option String := t.ancestry.findSome? d.ownType?

def sizedTextType (d : Dialect) (length : Int) : String :=
  sized (match d with | sqlServer => "NVARCHAR" | _ => "VARCHAR") length

/-! ### Overrides -/

/-- A bare character or decimal type takes the size that the column has. -/
def commonOverride (d : Dialect) (user : String) (detail : ColumnDetail) : String :=
  if user ∈ ["CHAR", "VARCHAR"] ∧ 0 < detail.length then sized user detail.length
  else if user ∈ ["DECIMAL", "NUMERIC"] ∧ 0 < detail.precision then
    scaled d.decimalName detail.precision detail.scale
  else Text.upper (Text.trim detail.effectiveType)

/-- A character type of any spelling without a size. -/
def isBareCharacterType (user : String) : Bool :=
  Text.contains "CHAR" user && !Text.contains "(" user

/-- The storage class of a type name. -/
def affinities : List (String × String) := [
  ("CHAR", "TEXT"), ("VARCHAR", "TEXT"), ("NCHAR", "TEXT"), ("NVARCHAR", "TEXT"), ("TEXT", "TEXT"),
  ("DECIMAL", "NUMERIC"), ("NUMERIC", "NUMERIC"),
  ("INT", "INTEGER"), ("INTEGER", "INTEGER"), ("BIGINT", "INTEGER"), ("SMALLINT", "INTEGER"),
  ("TINYINT", "INTEGER"), ("MEDIUMINT", "INTEGER"),
  ("REAL", "REAL"), ("FLOAT", "REAL"), ("DOUBLE", "REAL"), ("DOUBLE PRECISION", "REAL"),
  ("BOOLEAN", "INTEGER"), ("BOOL", "INTEGER"), ("BIT", "INTEGER"), ("UUID", "TEXT")]

/-- A type name in front of its arguments. -/
def bareName (user : String) : String :=
  Text.trim (String.ofList (Text.before ['('] user.toList))

/-- An override in the form that the dialect gives it. -/
def override (d : Dialect) (user : String) (detail : ColumnDetail) : String :=
  match d with
  | mySql => d.commonOverride user detail
  | postgres =>
    if isBareCharacterType user ∧ 0 < detail.length then sized user detail.length
    else d.commonOverride user detail
  | sqlServer =>
    if isBareCharacterType user ∧ 0 < detail.length then
      sized (if Text.startsWith "N" user then "NVARCHAR" else "VARCHAR") detail.length
    else d.commonOverride user detail
  | sqlite => (affinities.lookup (bareName user)).getD user

/-! ### Column types -/

/-- The type of a column without an override and without a precision. -/
def plainType (d : Dialect) (native : Option NativeType) (length : Int) : String :=
  if 0 < length ∧ native = some .text then d.sizedTextType length
  else (native.bind d.builtinType?).getD d.fallbackType

def columnType (d : Dialect) (native : Option NativeType) (detail : ColumnDetail) : String :=
  match detail.userType? with
  | some user => d.override user detail
  | none =>
    if 0 < detail.precision then
      match d with
      | sqlite => "NUMERIC"
      | _ => scaled d.decimalName detail.precision detail.scale
    else
      let plain := d.plainType native detail.length
      match d with
      | sqlite => if Text.startsWith "VARCHAR(" plain then "TEXT" else plain
      | _ => plain

/-! ### Keys that the database numbers -/

/-- The integer type of a numbered column, by the field's own type or by its SQL type. -/
def identityWidth? (native : Option NativeType) (base : String) : Option String :=
  let text := Text.upper base
  let has (word : String) : Bool := Text.contains word text
  if native = some .int ∨ native = some .int64 ∨ has "BIGINT" then some "BIGINT"
  else if native = some .int32 ∨ (has "INT" ∧ ¬ has "SMALLINT") then some "INTEGER"
  else if native = some .int16 ∨ native = some .int8 ∨ has "SMALLINT" then some "SMALLINT"
  else none

def identityClause : String := "GENERATED BY DEFAULT AS IDENTITY"

/-- A type that is not an integer one stays as it is. -/
def identityType (native : Option NativeType) (base : String) : String :=
  match identityWidth? native base with
  | some width => width ++ " " ++ identityClause
  | none => base

/-- A default as it stands in a column definition; texts stand there verbatim. -/
def defaultLiteral (d : Dialect) : Value → String
  | .scalar (.bool b) =>
    match d with
    | postgres => if b then "TRUE" else "FALSE"
    | _ => if b then "1" else "0"
  | v => v.plainText

end RelationalMapper.Dialect
