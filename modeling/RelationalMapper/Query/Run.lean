import RelationalMapper.Query.Compile
import RelationalMapper.Session

/-!
Running queries: a query is executed once, and after that it is used up, whatever became of it. A
query that is refused before anything is executed stays usable.
-/

namespace RelationalMapper

namespace Session

/-- A query on the table of a class. -/
def query (type : EntityClass) : Action Session Query := do
  let base ← tableMap type
  return Query.start (← get).connection.dialect base

end Session

namespace Query

/-- Marks the query as executed. -/
def use : Action Query Unit := do
  checkOpen
  modify fun q => { q with executed := true }

/-- Uses the query up and fetches the rows of a statement. -/
def fetch (compile : Query → Except Failure String) :
    Action (Session × Query) (List Row) := do
  use.second
  let (_, q) ← get
  let sql ← Action.ofExcept (compile q)
  (Session.onConnection (Connection.query sql q.params)).first

/-- The rows under their column labels. -/
def toRows : Action (Session × Query) (List Row) := fetch selectText

/-- The rows as entities of the base class, or of another class by its column labels. -/
def toList (type : Option EntityClass) : Action (Session × Query) (List Entity) := do
  let rows ← toRows
  let (_, q) ← get
  let m ← match type with
    | none => pure q.base
    | some t => (Session.projectionMap t).first
  rows.mapM fun row => (Session.onConnection (row.toEntity m)).first

/-- Lets the query ask for one row at most. -/
def limitToOne : Action Query Unit := do
  let q ← get
  let limit := q.window.limit
  let clamps ← if limit = .null then pure true else Action.ofExcept limit.exceedsOne
  if clamps then set { q with window := { q.window with limit := .int 1 } }

/-- The first entity, if there is one. -/
def first : Action (Session × Query) (Option Entity) := do
  limitToOne.second
  return (← toList none).head?

/-- The number that a counting statement gave; nothing is zero. -/
def countIn (rows : List Row) : Except Failure Int := do
  match rows with
  | [] => return 0
  | row :: _ =>
    let value ← row.head?
    if value.isFalsy then return 0
    value.toInteger

/-- How many rows the query finds. -/
def count : Action (Session × Query) Int := do
  let rows ← fetch countText
  Action.ofExcept (countIn rows)

/-- Uses the query up and executes a statement, unless that is refused. -/
def write (operation : String) (compile : Query → Except Failure Compiled) :
    Action (Session × Query) Int := do
  checkOpen.second
  let (_, q) ← get
  let statement ← Action.ofExcept (compile q)
  use.second
  (Session.onConnection
    (Connection.execute statement.sql statement.params operation)).first

def update (assignments : Option (List (String × Value))) : Action (Session × Query) Int :=
  write TableMap.updateOperation (·.updateStatement assignments)

def delete : Action (Session × Query) Int :=
  write TableMap.deleteOperation deleteStatement

/-- Joins the table of a class. -/
def joinClass (kind : JoinKind) (type : EntityClass) (aliasName : Option String)
    (steps : List (Piece JoinTest)) : Action (Session × Query) Unit := do
  checkOpen.second
  let name ← Action.ofExcept (checkAlias type aliasName)
  let m ← (Session.tableMap type).first
  (join kind m name steps).second

/-! ### Frames -/

/-- Columns with the values of all rows. -/
abbrev Frame := Entries (List Value)

/-- A value in a column: plain numbers and points in time lose their own types. -/
def framed (v : Value) : Value :=
  match v with
  | .list items => .list items
  | .scalar (.machineMoment (some m)) => .scalar (.timestamp m.stamp)
  | .scalar s =>
    match s.unwrapped with
    | .refinedInt _ | .refinedFloat _ | .color _ => .scalar s.plain
    | .dateTime m | .refinedDateTime m => .scalar (.timestamp (.ofDateTime m))
    | plain => .scalar plain

/-- The columns of rows that all have the same labels. -/
def frameOf (rows : List Row) : Frame :=
  match rows with
  | [] => []
  | row :: _ => row.names.map fun label =>
    (label, rows.map fun r => framed ((r.get? label).getD .null))

def toFrame : Action (Session × Query) Frame := do return frameOf (← toRows)

end Query

end RelationalMapper
