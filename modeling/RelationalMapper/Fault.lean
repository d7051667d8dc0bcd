import RelationalMapper.Text.Quoted

/-!
Faults: what a database driver, or code that an application hands in, may raise. They form a small
hierarchy, so that a handler for one kind also catches the kinds below it.
-/

namespace RelationalMapper

inductive Vendor where
  | sqlite
  | postgres
  deriving Repr, DecidableEq, Inhabited

/-- The error classes that every driver offers. -/
inductive DriverError where
  | warning | error | interface | database
  | data | operational | integrity | internal | programming | notSupported
  deriving Repr, DecidableEq, Inhabited

inductive FaultKind where
  | driver (vendor : Vendor) (problem : DriverError)
  | library
  | connectionFailure
  | usage
  | value
  | key
  | runtime
  deriving Repr, DecidableEq, Inhabited

structure Fault where
  kind : FaultKind
  text : String
  deriving Repr, DecidableEq, Inhabited

namespace DriverError

def all : List DriverError := [warning, error, interface, database, data, operational, integrity,
  internal, programming, notSupported]

def name : DriverError → String
  | warning => "Warning"
  | error => "Error"
  | interface => "InterfaceError"
  | database => "DatabaseError"
  | data => "DataError"
  | operational => "OperationalError"
  | integrity => "IntegrityError"
  | internal => "InternalError"
  | programming => "ProgrammingError"
  | notSupported => "NotSupportedError"

def parent? : DriverError → Option DriverError
  | warning | error => none
  | interface | database => some error
  | _ => some database

def isA (e base : DriverError) : Bool :=
  e = base || match e.parent? with
    | none => false
    | some p => p = base || p.parent? = some base

end DriverError

namespace FaultKind

/-- A handler for `base` catches a fault of this kind. -/
def isA : FaultKind → FaultKind → Bool
  | driver v e, driver w base => v = w && e.isA base
  | connectionFailure, library => true
  | usage, library => true
  | kind, base => kind = base

/-- The connection could not be made or was lost. -/
def isConnection : FaultKind → Bool
  | driver _ .operational | driver _ .interface | connectionFailure => true
  | _ => false

def isIntegrity : FaultKind → Bool
  | driver _ .integrity => true
  | _ => false

/-- The fault is one of this library's own errors. -/
def isLibrary (kind : FaultKind) : Bool := kind.isA library

end FaultKind

/-- A missing key is shown as a literal. -/
def Fault.message (f : Fault) : String :=
  if f.kind = .key then Text.quoted f.text else f.text

end RelationalMapper
