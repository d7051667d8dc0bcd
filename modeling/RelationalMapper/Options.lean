import RelationalMapper.Entries
import RelationalMapper.Dialect.Basic
import RelationalMapper.Value.Order

/-!
Options: how a database is reached. They are put together from settings, of which the last one for
each field counts, and checked against what the dialect requires. A field holds what the caller gave
for it, of whatever type that is; a value that counts as nothing leaves the field open.
-/

namespace RelationalMapper

structure Options where
  driver : Value := .text "postgresql"
  host : Value := .null
  user : Value := .null
  password : Value := .null
  database : Value := .null
  port : Value := .int 0
  timeout : Value := .int 0
  application : Value := .null
  odbcDriver : Value := .text "ODBC Driver 18 for SQL Server"
  /-- How many parameters a statement may bind. -/
  maxParams : Value := .int 1800
  /-- A failed attempt to connect is repeated. -/
  retries : Value := .scalar (.bool true)
  deriving DecidableEq, Inhabited

namespace Options

/-- What is said about the field of a name. -/
abbrev Setting := String × Value

/-- The fields under their names. -/
def fields (o : Options) : Entries Value :=
  [("drivername", o.driver), ("hostname", o.host), ("username", o.user),
    ("password", o.password), ("database", o.database), ("port", o.port),
    ("timeout", o.timeout), ("appname", o.application), ("odbc_driver", o.odbcDriver),
    ("max_params", o.maxParams), ("check_connection", o.retries)]

def unknownOption (name : String) : Failure :=
  .wrongType ("unknown option " ++ Text.quoted name)

def apply (o : Options) : Setting → Except Failure Options
  | ("drivername", v) => .ok { o with driver := v }
  | ("hostname", v) => .ok { o with host := v }
  | ("username", v) => .ok { o with user := v }
  | ("password", v) => .ok { o with password := v }
  | ("database", v) => .ok { o with database := v }
  | ("port", v) => .ok { o with port := v }
  | ("timeout", v) => .ok { o with timeout := v }
  | ("appname", v) => .ok { o with application := v }
  | ("odbc_driver", v) => .ok { o with odbcDriver := v }
  | ("max_params", v) => .ok { o with maxParams := v }
  | ("check_connection", v) => .ok { o with retries := v }
  | (name, _) => .error (unknownOption name)

/-- A value that says something. -/
def given (v : Value) : Option Value := if v.isFalsy then none else some v

/-- The name of the dialect; a name is a text, or missing. -/
def driverName (o : Options) : Except Failure String :=
  match given o.driver with
  | none => .ok ""
  | some (.scalar (.text name)) | some (.scalar (.refinedText name)) => .ok name
  | some _ => .error (.wrongType "the name of a dialect is a text")

/-- How many parameters a statement may bind, as an integer. -/
def limit (o : Options) : Option Int := o.maxParams.toInteger.toOption

/-! ### The name of the application -/

/-- The application of an interactive session. -/
def console : String := "python_console"

def fileName (path : List Char) : List Char := (path.reverse.takeWhile (· ≠ '/')).reverse

/-- The name without its extension; dots at the beginning do not start one. -/
def withoutExtension (name : List Char) : List Char :=
  let dots := name.takeWhile (· = '.')
  let rest := name.dropWhile (· = '.')
  if rest.contains '.' then dots ++ ((rest.reverse.dropWhile (· ≠ '.')).drop 1).reverse else name

/-- The name of a running script, from the path that it was started with. -/
def scriptName? (path : Option String) : Option String :=
  (path.filter (· ≠ "-c")).bind fun text =>
    let name := String.ofList (withoutExtension (fileName text.toList))
    if name = "" then none else some name

/-- The application that the options name, or the running script. -/
def applicationName (o : Options) (script : Option String) : Value :=
  (given o.application).getD (.text ((scriptName? script).getD console))

/-! ### Requirements -/

/-- A field that a dialect may require. -/
inductive Requirement where
  | host
  | user
  | database
  deriving Repr, DecidableEq, Inhabited

namespace Requirement

def name : Requirement → String
  | host => "hostname"
  | user => "username"
  | database => "database"

end Requirement

def field (o : Options) : Requirement → Value
  | .host => o.host
  | .user => o.user
  | .database => o.database

end Options

/-- The fields that the options of a dialect must have. -/
def Dialect.requirements : Dialect → List Options.Requirement
  | sqlite => [.database]
  | _ => [.host, .user, .database]

namespace Options

/-- The first field that is required and says nothing. -/
def missing? (o : Options) (d : Dialect) : Option Requirement :=
  d.requirements.find? fun r => (o.field r).isFalsy

/-- The dialect of the options, if they are complete for it. -/
def dialect (o : Options) : Except Failure Dialect := do
  match Dialect.ofName? (← o.driverName) with
  | none => .error (.argument (.driverName Dialect.available))
  | some d =>
    if ← o.maxParams.isBelowOne then .error (.argument .maxParams)
    else match o.missing? d with
      | some field => .error (.argument (.missingOption field.name))
      | none => .ok d

/-- Complete options with the name of their application. -/
def checked (o : Options) (script : Option String) : Except Failure Options :=
  o.dialect.map fun _ => { o with application := o.applicationName script }

/-- Options from settings; `script` is the path of the running script. -/
def load (script : Option String) (settings : List Setting) : Except Failure Options := do
  (← settings.foldlM apply {}).checked script

/-- Options with other settings. -/
def revise (o : Options) (script : Option String) (settings : List Setting) :
    Except Failure Options :=
  if settings = [] then .ok o else do (← settings.foldlM apply o).checked script

end Options

end RelationalMapper
