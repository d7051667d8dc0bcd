import RelationalMapper.Action
import RelationalMapper.Query.Condition
import RelationalMapper.Query.Projection

/-!
Queries: what is asked of one table and of the tables joined to it, put together step by step. A
step that is refused leaves the query usable, and keeps what it had done up to then. Once a query
was executed it takes no more steps.
-/

namespace RelationalMapper

inductive JoinKind where
  | plain
  | inner
  | left
  | right
  | leftInner
  | rightInner
  | outer
  deriving Repr, DecidableEq, Inhabited

namespace JoinKind

def all : List JoinKind := [plain, inner, left, right, leftInner, rightInner, outer]

def text : JoinKind → String
  | plain => "JOIN"
  | inner => "INNER JOIN"
  | left => "LEFT JOIN"
  | right => "RIGHT JOIN"
  | leftInner => "LEFT INNER JOIN"
  | rightInner => "RIGHT INNER JOIN"
  | outer => "OUTER JOIN"

end JoinKind

structure Join where
  kind : JoinKind
  table : String
  aliasName : String
  condition : Condition ColumnTest
  deriving DecidableEq, Inhabited

structure OrderTerm where
  column : ColumnRef
  ascending : Bool
  deriving Repr, DecidableEq, Inhabited

structure Query where
  dialect : Dialect
  base : TableMap
  /-- The alias of the base table. -/
  baseAlias : Option String := none
  joins : List Join := []
  scope : Scope
  condition : Condition Test := []
  /-- How many tests were asked for, refused ones included. -/
  tests : Nat := 0
  projection : Projection := []
  order : List OrderTerm := []
  window : Window := {}
  executed : Bool := false
  deriving DecidableEq, Inhabited

namespace Query

def start (dialect : Dialect) (base : TableMap) : Query :=
  { dialect, base, scope := [(base.type.name, ⟨base, none⟩)] }

/-- The values that the condition binds. -/
def params (q : Query) : List Value := q.condition.params

def conditionText (q : Query) : String := q.condition.text (Test.text q.dialect)

/-- The query still takes steps. -/
def checkOpen : Action Query Unit := do
  let q ← get
  if q.executed then throw (.misuse (.alreadyExecuted q.base.type.name))

/-! ### Columns -/

def baseSource (q : Query) : Source := ⟨q.base, q.baseAlias⟩

/-- The table of an entity class, or the base table. -/
def source (q : Query) (entity : Option EntityClass) : Except Failure Source :=
  match entity with
  | none => .ok q.baseSource
  | some type => q.scope.source type

/-- The column of a property. -/
def column (q : Query) (entity : Option EntityClass) (property : String) :
    Except Failure ColumnRef :=
  (q.source entity).map (·.column property)

/-! ### Conditions -/

/-- A test that rows are asked to pass. -/
inductive FilterTest where
  | compare (property : String) (op : Comparison) (value : Value) (entity : Option EntityClass)
  /-- The property has one of the values that a collection holds. -/
  | among (property : String) (values : Value) (entity : Option EntityClass)
  deriving DecidableEq, Inhabited

def addPiece (piece : Piece Test) : Action Query Unit :=
  modify fun q => { q with condition := q.condition ++ [piece] }

/-- Prepares the condition for one more test. -/
def expectTest : Action Query Unit :=
  modify fun q => { q with tests := q.tests + 1, condition := q.condition.connected }

def addFilter : FilterTest → Action Query Unit
  | .compare property op value entity => do
    let column ← Action.ofExcept ((← get).column entity property)
    expectTest
    addPiece (.test (.comparison column op value))
  | .among property values entity => do
    let column ← Action.ofExcept ((← get).column entity property)
    expectTest
    addPiece (.test (.among column (← Action.ofExcept values.elements)))

def filterStep : Piece FilterTest → Action Query Unit
  | .test t => addFilter t
  | .and => addPiece .and
  | .or => addPiece .or
  | .opening => addPiece .opening
  | .closing => addPiece .closing

/-- Says which rows are asked for, piece by piece. -/
def filter (steps : List (Piece FilterTest)) : Action Query Unit := do
  checkOpen
  steps.forM filterStep

/-! ### Joins -/

/-- A test of how a joined table belongs to the others: the left property is one of an earlier table,
the right property one of the joined table. -/
structure JoinTest where
  left : String
  op : Comparison
  right : String
  entity : Option EntityClass
  deriving DecidableEq, Inhabited

def onStep (q : Query) (joined : Source) (c : Condition ColumnTest) :
    Piece JoinTest → Except Failure (Condition ColumnTest)
  | .test t => do
    let column ← q.column t.entity t.left
    return c.addTest ⟨column, t.op, joined.column t.right⟩
  | .and => .ok (c ++ [.and])
  | .or => .ok (c ++ [.or])
  | .opening => .ok (c ++ [.opening])
  | .closing => .ok (c ++ [.closing])

/-- A joined table must have an alias. -/
def checkAlias (type : EntityClass) (aliasName : Option String) : Except Failure String :=
  match aliasName.filter (· ≠ "") with
  | some name => .ok name
  | none => .error (.misuse (.joinWithoutAlias type.name))

/-- Joins a table, which is in scope as soon as its condition is stated. -/
def join (kind : JoinKind) (map : TableMap) (aliasName : String) (steps : List (Piece JoinTest)) :
    Action Query Unit := do
  let joined : Source := ⟨map, some aliasName⟩
  modify fun q => { q with scope := q.scope.put map.type.name joined }
  let q ← get
  let condition ← Action.ofExcept (steps.foldlM (q.onStep joined) [])
  modify fun q => { q with
    joins := q.joins ++ [{ kind, table := map.table, aliasName, condition }] }

/-! ### The other steps -/

def setAlias (aliasName : Option String) : Action Query Unit := do
  checkOpen
  modify fun q => { q with
    baseAlias := aliasName
    scope := q.scope.put q.base.type.name ⟨q.base, aliasName⟩ }

/-- Adds parts to the projection, all or none. -/
def select (steps : List Projection.Step) : Action Query Unit := do
  checkOpen
  let parts ← Action.ofExcept (Projection.ofSteps steps)
  modify fun q => { q with projection := q.projection ++ parts }

def orderBy (property : String) (ascending : Bool) (entity : Option EntityClass) :
    Action Query Unit := do
  checkOpen
  let column ← Action.ofExcept ((← get).column entity property)
  modify fun q => { q with order := q.order ++ [{ column, ascending }] }

def setWindow (f : Window → Window) : Action Query Unit := do
  checkOpen
  modify fun q => { q with window := f q.window }

def limit (n : Value) : Action Query Unit := setWindow fun w => { w with limit := n }

def offset (n : Value) : Action Query Unit := setWindow fun w => { w with offset := n }

end Query

end RelationalMapper
