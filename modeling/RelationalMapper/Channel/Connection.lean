import RelationalMapper.Channel.Driver
import RelationalMapper.Dialect.Basic
import RelationalMapper.Notice

/-!
Connections: what statements are sent over. Outside a transaction each statement is committed, or
undone, on its own.
-/

namespace RelationalMapper

structure Connection where
  dialect : Dialect
  /-- How many parameters a statement may bind, where the options say so. -/
  maxParams : Option Int := none
  /-- Closing gives the connection back to its pool. -/
  pooled : Bool := false
  driver : Driver := {}
  inTransaction : Bool := false
  /-- How many statements were sent. -/
  calls : Nat := 0
  closed : Bool := false
  notices : List Notice := []
  deriving DecidableEq, Inhabited

namespace Connection

def onDriver {α : Type} (a : Action Driver α) : Action Connection α :=
  a.within (·.driver) fun c d => { c with driver := d }

def report (n : Notice) : Action Connection Unit :=
  modify fun c => { c with notices := c.notices ++ [n] }

def commit : Action Connection Unit := onDriver (Driver.reach .commit)

def rollback : Action Connection Unit := onDriver (Driver.reach .rollback)

def commitUnlessInTransaction : Action Connection Unit := do
  if !(← get).inTransaction then commit

/-- Undoes what a failed statement did; if that fails as well, the statement's failure counts. -/
def rollbackUnlessInTransaction : Action Connection Unit := do
  if !(← get).inTransaction then
    try rollback catch _ => pure ()

def countCall : Action Connection Unit := modify fun c => { c with calls := c.calls + 1 }

/-- The call that ends the use of the connection. -/
def release : Action Connection Unit := do
  if (← get).pooled then
    onDriver (modify fun d => d.record .release)
  else onDriver (Driver.reach .close)

/-- Commits pending work, unless a transaction is open, and closes; a second time does nothing. -/
def close : Action Connection Unit := do
  if !(← get).closed then
    commitUnlessInTransaction
    release
    modify fun c => { c with closed := true }

/-- Runs a block on the connection and closes it, however the block ends. -/
def closing {α : Type} (block : Action Connection α) : Action Connection α := do
  try block finally close

end Connection

end RelationalMapper
