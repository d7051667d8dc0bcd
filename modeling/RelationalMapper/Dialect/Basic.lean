import RelationalMapper.Failure
import RelationalMapper.Sql.Identifier
import RelationalMapper.Sql.Placeholder
import RelationalMapper.Text.LetterCase
import RelationalMapper.Value.Binding

/-!
The SQL dialects, what sets them apart, and how a dialect is recognised from the name of a database
product, of a driver or of an address scheme.
-/

namespace RelationalMapper

inductive Dialect where
  | mySql
  | postgres
  | sqlite
  | sqlServer
  deriving Repr, DecidableEq, Inhabited

namespace Dialect

def all : List Dialect := [mySql, postgres, sqlite, sqlServer]

def name : Dialect → String
  | mySql => "mysql"
  | postgres => "postgresql"
  | sqlite => "sqlite"
  | sqlServer => "mssql"

def available : List String := all.map name

/-! ### What sets the dialects apart -/

def quotes : Dialect → Sql.Quotes
  | mySql => .backticks
  | postgres | sqlite => .doubleQuotes
  | sqlServer => .brackets

def quote (d : Dialect) (identifier : String) : String := d.quotes.quote identifier

def placeholder : Dialect → String
  | mySql | postgres => "%s"
  | sqlite | sqlServer => Sql.questionMark

/-- The statement with the placeholders of the dialect's drivers. -/
def standardize (d : Dialect) (sql : String) : String := Sql.standardize d.placeholder sql

def bindingStyle (d : Dialect) : BindingStyle := .ofName d.name

def decimalName : Dialect → String
  | postgres => "NUMERIC"
  | _ => "DECIMAL"

/-- The column type of a field whose own type has none. -/
def fallbackType : Dialect → String
  | mySql | postgres => "VARCHAR(255)"
  | sqlite => "TEXT"
  | sqlServer => "NVARCHAR(255)"

/-- The limit that keeps all rows, where an offset may not stand without a limit. -/
def unboundedLimit? : Dialect → Option String
  | mySql => some "18446744073709551615"
  | sqlite => some "-1"
  | _ => none

/-- A table may be created only if it does not exist yet. -/
def hasCreateGuard : Dialect → Bool
  | sqlServer => false
  | _ => true

/-- What marks a column as numbered by the database. -/
def autoClause : Dialect → String
  | mySql => " AUTO_INCREMENT"
  | postgres => ""
  | sqlite => " AUTOINCREMENT"
  | sqlServer => " IDENTITY(1,1)"

/-- An insertion gives back the keys that the database made. -/
def returnsKeys : Dialect → Bool
  | postgres => true
  | _ => false

/-! ### Recognition -/

/-- The first dialect, in this order, that a word in the name gives away. -/
def words : List (Dialect × List String) := [
  (mySql, ["mysql", "mariadb"]),
  (postgres, ["postgres", "psycopg"]),
  (sqlServer, ["microsoft sql server", "sqlserver", "mssql", "pyodbc"]),
  (sqlite, ["sqlite"])]

def ofName? (name : String) : Option Dialect :=
  let text := Text.lower (Text.trim name)
  (words.find? fun (_, ws) => ws.any fun w => Text.contains w text).map (·.1)

/-- The dialect that a name gives away; nothing is not a name of any. -/
def recognize (name : Option String) : Except Failure Dialect :=
  match name.bind ofName? with
  | some d => .ok d
  | none => .error (.unsupportedDatabase name)

def isSupported (name : Option String) : Bool := (name.bind ofName?).isSome

/-- What is known of a connection, an engine or an address. -/
inductive Trace where
  /-- An address, or the name of a product. -/
  | address (text : String)
  | stated (dialect : Dialect)
  | named (name : String)
  /-- Only the module and the name of the connection's class. -/
  | className (module name : String)
  deriving Repr, DecidableEq, Inhabited

/-- The part of an address in front of its authority. -/
def scheme (address : String) : String := String.ofList (Text.before "://".toList address.toList)

def detect : Trace → Except Failure Dialect
  | .address text => recognize (some (scheme text))
  | .stated dialect => .ok dialect
  | .named name => recognize (some name)
  | .className module name => recognize (some (module ++ "." ++ name))

/-- Quoting by the exact name of a dialect. -/
def quoteBy (dialect identifier : String) : Except Failure String :=
  match all.find? (·.name = dialect) with
  | some d => .ok (d.quote identifier)
  | none => .error (.argument (.quotingDialect dialect))

end Dialect

end RelationalMapper
