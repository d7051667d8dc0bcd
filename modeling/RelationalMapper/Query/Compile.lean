import RelationalMapper.Query.Basic

/-!
The statements of a query. All of them read the same condition: the selection and the counts through
the joined tables, updates and deletions on the base table alone.
-/

namespace RelationalMapper

namespace Dialect

def joinText (d : Dialect) (j : Join) : String :=
  " " ++ j.kind.text ++ " " ++ d.quote j.table ++ " " ++ d.quote j.aliasName ++ " ON "
    ++ j.condition.text (ColumnTest.text d)

def orderTermText (d : Dialect) (t : OrderTerm) : String :=
  d.columnText t.column ++ (if t.ascending then " ASC" else " DESC")

end Dialect

namespace Query

def whereText (q : Query) : String :=
  if q.condition = [] then "" else " WHERE " ++ q.conditionText

/-- The tables that are read, and the condition. -/
def fromText (q : Query) : String :=
  " FROM " ++ q.dialect.quote q.base.table
    ++ q.baseSource.qualifier.elim "" (fun name => " " ++ q.dialect.quote name)
    ++ Text.joined "" (q.joins.map q.dialect.joinText) ++ q.whereText

def withName (q : Query) (text : String) (aliasName : Option String) : String :=
  match aliasName.filter (· ≠ "") with
  | some name => SelectionPart.named text (q.dialect.quote name)
  | none => text

def partText (q : Query) : SelectionPart → Except Failure String
  | .column property entity aliasName => do
    return q.withName (q.dialect.columnText (← q.column entity property)) aliasName
  | .star entity => do return q.dialect.starText (← q.source entity).qualifier
  | .aggregate function distinct property entity aliasName => do
    let inner ← match property with
      | none => pure "*"
      | some p => q.dialect.columnText <$> q.column entity p
    let text := function.name ++ "(" ++ (if distinct then "DISTINCT " else "") ++ inner ++ ")"
    return q.withName text aliasName
  | .computed expression => .ok expression

/-- What a row consists of; all columns of the base table, if nothing is said. -/
def projectionText (q : Query) : Except Failure String :=
  if q.projection = [] then .ok (q.dialect.starText q.baseSource.qualifier)
  else (q.projection.mapM q.partText).map (Text.joined ", ")

/-- The terms by which rows are ordered, if there are any. -/
def orderText? (q : Query) : Option String :=
  if q.order = [] then none
  else some (Text.joined ", " (q.order.map q.dialect.orderTermText))

/-- The selection of rows. -/
def selectText (q : Query) : Except Failure String := do
  let order := q.orderText?
  let sql := "SELECT " ++ (← q.projectionText) ++ q.fromText
    ++ order.elim "" (" ORDER BY " ++ ·)
  q.dialect.paginate sql order q.window

/-- The number of rows under this name. -/
def countColumn (q : Query) : String := "SELECT COUNT(*) AS " ++ q.dialect.quote "count"

/-- The number of rows; a page is counted around its selection. -/
def countText (q : Query) : Except Failure String :=
  if q.window.isOpen then .ok (q.countColumn ++ q.fromText)
  else q.selectText.map fun inner =>
    q.countColumn ++ " FROM (" ++ inner ++ ") " ++ q.dialect.quote "sub"

/-- A statement with what its marks stand for. -/
structure Compiled where
  sql : String
  params : List Value
  deriving DecidableEq, Inhabited

/-- The statement together with its parameters, for people. -/
def Compiled.described (c : Compiled) : String :=
  if c.params = [] then c.sql
  else c.sql ++ "\n[Params] " ++ Text.joined ", " (c.params.mapIdx fun i v =>
    "?" ++ Number.natText (i + 1) ++ "=" ++ v.parameterText)

/-- A statement that writes needs a condition. -/
def checkGuarded (q : Query) (operation : String) : Except Failure Unit :=
  if q.tests = 0 then .error (.misuse (.emptyWhere operation)) else .ok ()

def assignmentText (q : Query) (property : String) : String :=
  q.dialect.quote (q.base.columnName property) ++ " = " ++ Sql.questionMark

/-- The update that assigns the values to the properties; without assignments there is none. -/
def updateStatement (q : Query) (assignments : Option (List (String × Value))) :
    Except Failure Compiled := do
  let some given := assignments | .error (.misuse .noSetBuilder)
  q.checkGuarded "update"
  if given = [] then .error (.misuse .emptySet)
  return {
    sql := "UPDATE " ++ q.dialect.quote q.base.table ++ " SET "
      ++ Text.joined ", " (given.map fun (property, _) => q.assignmentText property)
      ++ " WHERE " ++ q.conditionText
    params := given.map (·.2) ++ q.params }

def deleteStatement (q : Query) : Except Failure Compiled := do
  q.checkGuarded "delete"
  return { sql := "DELETE FROM " ++ q.dialect.quote q.base.table ++ " WHERE " ++ q.conditionText
           params := q.params }

/-- What a query shows of a statement; it stays as it is. -/
def inspect {α : Type} (compile : Query → Except Failure α) : Action Query α := do
  checkOpen
  Action.ofExcept (compile (← get))

def selectStatement (q : Query) : Except Failure Compiled :=
  q.selectText.map fun sql => { sql, params := q.params }

end Query

end RelationalMapper
