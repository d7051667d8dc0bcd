import RelationalMapper.Options

/-!
Addresses: where a driver finds the database that the options describe. Each dialect has its driver
and its own parameters; a file has neither a host nor a user.
-/

namespace RelationalMapper

/-- A server, who asks there, and what it is told beyond that. -/
structure Server where
  user : Value
  password : Value
  host : Value
  port : Option Value
  parameters : Entries Value
  deriving DecidableEq, Inhabited

structure Address where
  driver : String
  database : Value
  /-- The server, unless the database is a file. -/
  server : Option Server := none
  deriving DecidableEq, Inhabited

namespace Address

/-- The parts of the address under their names, the parameters apart. -/
def parts (a : Address) : Entries Value :=
  ("drivername", .text a.driver) :: ("database", a.database) :: match a.server with
    | none => []
    | some s => [("username", s.user), ("password", s.password), ("host", s.host),
      ("port", s.port.getD .null)]

/-- The parameters, which only servers take. -/
def parameters? (a : Address) : Option (Entries Value) := a.server.map (·.parameters)

end Address

namespace Dialect

/-- The dialect and its driver. -/
def driverName : Dialect → String
  | mySql => "mysql+pymysql"
  | postgres => "postgresql+psycopg"
  | sqlite => "sqlite"
  | sqlServer => "mssql+pyodbc"

/-- The parameter of a value that says something. -/
def parameter (name : String) (v : Option Value) : Entries Value := v.toList.map fun v => (name, v)

/-- How long the driver waits, as a text. -/
def timeoutText (o : Options) : Option Value :=
  (Options.given o.timeout).map fun v => .text v.plainText

/-- What the driver is told beyond the place of the database. -/
def parameters (d : Dialect) (o : Options) : Entries Value :=
  match d with
  | mySql => parameter "connect_timeout" (timeoutText o)
  | postgres => parameter "connect_timeout" (timeoutText o)
    ++ parameter "application_name" (Options.given o.application)
  | sqlite => []
  | sqlServer => ("driver", o.odbcDriver) :: parameter "timeout" (timeoutText o)

/-- The address of the database that the options describe. -/
def address (d : Dialect) (o : Options) : Address :=
  { driver := d.driverName
    database := o.database
    server := match d with
      | sqlite => none
      | _ => some
        { user := o.user, password := o.password, host := o.host
          port := Options.given o.port, parameters := d.parameters o } }

end Dialect

/-- The address of the database that complete options describe. -/
def Options.address (o : Options) : Except Failure Address := o.dialect.map (·.address o)

end RelationalMapper
