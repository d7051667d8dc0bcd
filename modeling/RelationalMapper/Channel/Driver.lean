import RelationalMapper.Action
import RelationalMapper.Value.Basic

/-!
Drivers: the other end of a connection. What a driver will answer, and where it will fail, is given
in advance; every call that reaches it is kept in a trace.
-/

namespace RelationalMapper

/-- What a driver answers to one statement. -/
structure Response where
  rowCount : Option Int := some 1
  /-- The key that the driver remembers of an insertion. -/
  lastRowId : Value := .null
  /-- The labels of the result's columns, if the statement has a result. -/
  columns : Option (List String) := none
  rows : List (List Value) := []
  /-- The row that is fetched on its own. -/
  firstRow : Option (List Value) := none
  /-- The statement fails. -/
  fault : Option Fault := none
  /-- The rows cannot be fetched. -/
  fetchFault : Option Fault := none
  deriving DecidableEq, Inhabited

inductive Call where
  | openCursor
  | execute (sql : String) (params : Option (List Value))
  | executeMany (sql : String) (batch : List (List Value))
  | fetchAll
  | fetchOne
  | closeCursor
  | commit
  | rollback
  | close
  /-- The connection goes back to the pool that it came from. -/
  | release
  /-- An engine opens a connection. -/
  | connect
  deriving DecidableEq, Inhabited

/-- The name of a call in a trace. -/
def Call.name : Call → String
  | openCursor => "cursor"
  | execute .. => "execute"
  | executeMany .. => "executemany"
  | fetchAll => "fetchall"
  | fetchOne => "fetchone"
  | closeCursor => "cursor.close"
  | commit => "commit"
  | rollback => "rollback"
  | close => "close"
  | release => "sa.close"
  | connect => "engine.connect"

/-- The calls that a driver may be told to fail at. -/
inductive FailurePoint where
  | openCursor
  | closeCursor
  | commit
  | rollback
  | close
  deriving Repr, DecidableEq, Inhabited

structure Driver where
  responses : List Response := []
  faults : List (FailurePoint × Fault) := []
  trace : List Call := []
  deriving DecidableEq, Inhabited

namespace FailurePoint

def all : List FailurePoint := [openCursor, closeCursor, commit, rollback, close]

def call : FailurePoint → Call
  | openCursor => .openCursor
  | closeCursor => .closeCursor
  | commit => .commit
  | rollback => .rollback
  | close => .close

end FailurePoint

namespace Driver

def record (d : Driver) (c : Call) : Driver := { d with trace := d.trace ++ [c] }

/-- The fault that waits at a point. -/
def waiting? (d : Driver) (point : FailurePoint) : Option Fault := d.faults.lookup point

/-- A call that fails if a fault waits for it. -/
def reach (point : FailurePoint) : Action Driver Unit :=
  .ofFunction fun d =>
    let d := d.record point.call
    match d.waiting? point with
    | none => (.ok (), d)
    | some f => (.error (.fault f), { d with faults := d.faults.erase (point, f) })

/-- The next answer; a driver that was told nothing more changes one row. -/
def nextResponse (d : Driver) : Response := d.responses.headD {}

/-- Hands a statement over. -/
def send (c : Call) : Action Driver Response :=
  .ofFunction fun d =>
    let answer := d.nextResponse
    let d := { d.record c with responses := d.responses.tail }
    match answer.fault with
    | none => (.ok answer, d)
    | some f => (.error (.fault f), d)

/-- Asks for rows of an answer. -/
def fetch (c : Call) (answer : Response) : Action Driver Unit :=
  .ofFunction fun d =>
    match answer.fetchFault with
    | none => (.ok (), d.record c)
    | some f => (.error (.fault f), d.record c)

end Driver

end RelationalMapper
