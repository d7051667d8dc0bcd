import RelationalMapper.Channel.Connection
import RelationalMapper.Entries

/-!
Statements: a text with the parameters that are bound to its marks. Parameters are bound by ordinal,
in any order; a set of parameters may be queued, and the queue is sent at once. A failure in the
driver is passed on under the statement that it belongs to.
-/

namespace RelationalMapper

/-- A row of a result under its column labels. -/
abbrev Row := Entries Value

structure Statement where
  sql : String
  operation : String
  /-- What is bound to the ordinals from one on. -/
  slots : List (Option Value) := []
  /-- Queued sets of parameters. -/
  batch : List (List Value) := []
  /-- What the open cursor answered last. -/
  cursor : Option Response := none
  rowCount : Int := 0
  deriving DecidableEq, Inhabited

namespace Statement

/-- The operation of statements that only read. -/
def reading : String := "query"

/-! ### Parameters -/

/-- The list with `a` at a place, filled up with nothing as far as needed. -/
def putSlot {α : Type} (slots : List (Option α)) (place : Nat) (a : α) : List (Option α) :=
  match slots, place with
  | [], 0 => [some a]
  | [], n + 1 => none :: putSlot [] n a
  | _ :: rest, 0 => some a :: rest
  | s :: rest, n + 1 => s :: putSlot rest n a

/-- Binds a value to an ordinal; ordinals start at one. -/
def bind (s : Statement) (ordinal : Int) (value : Value) : Except Failure Statement :=
  if ordinal < 1 then .error (.argument (.ordinal ordinal))
  else .ok { s with slots := putSlot s.slots (ordinal.toNat - 1) value }

/-- Binds values to the ordinals from one on, and nothing else. -/
def bindAll (s : Statement) (values : List Value) : Statement :=
  { s with slots := values.map some }

/-- The ordinals from `n` on to which nothing is bound. -/
def unbound (n : Nat) : List (Option Value) → List Nat
  | [] => []
  | none :: rest => n :: unbound (n + 1) rest
  | some _ :: rest => unbound (n + 1) rest

/-- The bound values in the order of their ordinals, if there are no gaps. -/
def parameters (s : Statement) : Except Failure (List Value) :=
  match unbound 1 s.slots with
  | [] => .ok (s.slots.filterMap id)
  | missing => .error (.argument (.unboundOrdinals missing))

/-- Queues the bound values. -/
def addBatch (s : Statement) : Except Failure Statement :=
  s.parameters.map fun params => { s with batch := s.batch ++ [params], slots := [] }

/-- The failure of this statement with its cause. -/
def failed (s : Statement) (cause : Failure) : Failure :=
  .execution s.operation (some s.sql) (some cause)

end Statement

/-- A statement on its connection. -/
structure Channel where
  connection : Connection
  statement : Statement
  deriving DecidableEq, Inhabited

namespace Channel

def onConnection {α : Type} (a : Action Connection α) : Action Channel α :=
  a.within (·.connection) fun c connection => { c with connection }

def onDriver {α : Type} (a : Action Driver α) : Action Channel α :=
  onConnection (Connection.onDriver a)

def change (f : Statement → Statement) : Action Channel Unit :=
  modify fun c => { c with statement := f c.statement }

/-- Changes the statement, if that is possible. -/
def changeIfPossible (f : Statement → Except Failure Statement) : Action Channel Unit := do
  let s ← Action.ofExcept (f (← get).statement)
  change fun _ => s

/-- Closes the cursor, if one is open. -/
def close : Action Channel Unit := do
  if (← get).statement.cursor.isSome then
    try onDriver (Driver.reach .closeCursor)
    finally change fun s => { s with cursor := none }

/-- A cursor that no statement was sent through. -/
def freshCursor : Response := { rowCount := some (-1) }

/-- Sends a call through a new cursor. A failure of the library's own passes as it is, and any other
one under the name of the statement; both undo pending work. -/
def transmit (call : Call) : Action Channel Response := do
  close
  onDriver (Driver.reach .openCursor)
  change fun s => { s with cursor := some freshCursor }
  let s := (← get).statement
  try
    let answer ← onDriver (Driver.send call)
    change fun s => { s with cursor := some answer }
    return answer
  catch cause =>
    onConnection Connection.rollbackUnlessInTransaction
    throw (if cause.isLibrary then cause else s.failed cause)
  finally onConnection Connection.countCall

/-- The statement's text in the dialect of its drivers. -/
def driverText (c : Channel) : String := c.connection.dialect.standardize c.statement.sql

/-- Parameters in the form in which they reach the driver. -/
def bound (c : Channel) (params : List Value) : List Value :=
  params.map (·.bound c.connection.dialect.bindingStyle)

/-- Sends the statement with its bound parameters. -/
def executeOnce : Action Channel Response := do
  let c ← get
  let params ← Action.ofExcept c.statement.parameters
  transmit (.execute c.driverText (some (c.bound params)))

/-- The rows of an answer, in each of which the first of equal labels counts. -/
def rowsOf (answer : Response) (columns : List String) : List Row :=
  answer.rows.map fun values => Entries.ofFirst (columns.zip values)

def fetchRows (answer : Response) : Action Channel (List Row) := do
  match answer.columns with
  | none => return []
  | some columns =>
    onDriver (Driver.fetch .fetchAll answer)
    return rowsOf answer columns

/-- Sends the statement and fetches its rows; pending work is committed unless the statement only
reads. -/
def executeQuery : Action Channel (List Row) := do
  let answer ← executeOnce
  let s := (← get).statement
  let rows ← try fetchRows answer catch cause =>
    onConnection Connection.rollbackUnlessInTransaction
    throw (s.failed cause)
  change fun s => { s with rowCount := rows.length }
  if s.operation ≠ Statement.reading then onConnection Connection.commitUnlessInTransaction
  return rows

/-- A driver has to say how many rows a statement changed. -/
def noRowCount : Failure := .wrongType "a row count is missing"

/-- Sends the statement and tells how many rows it changed; less than none is none. -/
def executeUpdate : Action Channel Int := do
  let answer ← executeOnce
  match answer.rowCount with
  | none => throw noRowCount
  | some n =>
    let count := max n 0
    change fun s => { s with rowCount := count }
    onConnection Connection.commitUnlessInTransaction
    return count

/-- The rows that a batch changed; where the driver does not say, one for each set. -/
def batchCount (answer : Response) (sets : Nat) : Int :=
  match answer.rowCount with
  | some n => if 0 ≤ n then n else sets
  | none => sets

/-- Sends the queued sets at once; the queue is emptied if that succeeds. -/
def executeBatch : Action Channel Int := do
  let c ← get
  let batch := c.statement.batch
  if batch = [] then return 0
  let answer ← transmit (.executeMany c.driverText (batch.map c.bound))
  change fun s => { s with batch := [], rowCount := batchCount answer batch.length }
  onConnection Connection.commitUnlessInTransaction
  return batchCount answer batch.length

end Channel

namespace Connection

/-- Runs a block on a new statement, beside another state, and closes the statement's cursor however
the block ends. -/
def withStatement {ε α : Type} (sql operation : String) (block : Action (Channel × ε) α) :
    Action (Connection × ε) α :=
  let closing : Action (Channel × ε) α := do
    try block finally Action.first Channel.close
  .ofFunction fun (connection, e) =>
    let (result, (channel, e)) :=
      closing.perform ({ connection, statement := { sql, operation } }, e)
    (result, (channel.connection, e))

/-- Runs a block on a new statement. -/
def onStatement {α : Type} (sql operation : String) (block : Action Channel α) :
    Action Connection α :=
  Action.alone (withStatement sql operation block.first)

/-- Sends one statement and tells how many rows it changed. -/
def execute (sql : String) (params : List Value) (operation : String) : Action Connection Int :=
  onStatement sql operation do
    Channel.change (·.bindAll params)
    Channel.executeUpdate

/-- The rows of a statement that only reads. -/
def query (sql : String) (params : List Value) : Action Connection (List Row) :=
  onStatement sql Statement.reading do
    Channel.change (·.bindAll params)
    Channel.executeQuery

end Connection

end RelationalMapper
