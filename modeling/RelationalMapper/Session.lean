import RelationalMapper.Bulk.Delete
import RelationalMapper.Cache
import RelationalMapper.Channel.Transaction
import RelationalMapper.Dialect.Schema
import RelationalMapper.Mapping.Resolution

/-!
Sessions: a connection together with the mappings of an application and the table maps that were
resolved from them. The application states its mappings when the first map is asked for; a map that
was resolved once is not resolved again.
-/

namespace RelationalMapper

/-- A mapping that an application states, or its failure to hold together. -/
abbrev Registration := Except Failure StatedMapping

structure Session where
  connection : Connection
  limit : ParameterLimit := .usual
  catalog : Catalog := []
  /-- The mappings of the application, if it states any. -/
  model : Option (List Registration) := none
  modelRuns : Nat := 0
  modelBuilt : Bool := false
  maps : Entries TableMap := []
  /-- Maps of classes that results were read into. -/
  projections : Cache String TableMap := { capacity := CacheShelf.usualCapacity }
  blocks : OpenBlocks := []
  deriving Inhabited

namespace Session

/-- A session on a connection, which is held to the connection's parameter limit. -/
def start (connection : Connection) (model : Option (List Registration)) :
    Except Failure Session :=
  match connection.maxParams with
  | none => .ok { connection, model }
  | some n => (ParameterLimit.of n).map fun limit => { connection, model, limit }

def onConnection {α : Type} (a : Action Connection α) : Action Session α :=
  a.within (·.connection) fun s connection => { s with connection }

def onBlocks {α : Type} (a : Action (OpenBlocks × Connection) α) : Action Session α :=
  a.within (fun s => (s.blocks, s.connection)) fun s (blocks, connection) =>
    { s with blocks, connection }

/-! ### Table maps -/

/-- Enters a mapping into the catalogue. -/
def register (r : Registration) : Action Session Unit := do
  let m ← Action.ofExcept r
  modify fun s => { s with catalog := s.catalog.register m }

/-- Lets the application state its mappings; those before a failing one are kept. -/
def runModel (registrations : List Registration) : Action Session Unit := do
  modify fun s => { s with modelRuns := s.modelRuns + 1 }
  registrations.forM register

def ensureModel : Action Session Unit := do
  let s ← get
  if !s.modelBuilt then
    (s.model.elim (pure ()) runModel : Action Session Unit)
    modify fun s => { s with modelBuilt := true }

/-- The map of a class. -/
def tableMap (type : EntityClass) : Action Session TableMap := do
  ensureModel
  let s ← get
  match s.maps.get? type.name with
  | some m => return m
  | none =>
    let m ← Action.ofExcept (Resolution.resolve s.catalog type)
    modify fun s => { s with maps := s.maps.put type.name m }
    return m

/-- The map of a class that results are read into. -/
def projectionMap (type : EntityClass) : Action Session TableMap := do
  let s ← get
  let (result, projections, _) :=
    s.projections.getOrMake type.name (Resolution.resolve s.catalog type)
  modify fun s => { s with projections }
  Action.ofExcept result

/-! ### Schema -/

/-- The operation of schema statements. -/
def schemaOperation : String := "ddl"

def createText (type : EntityClass) (guarded : Bool) : Action Session String := do
  let m ← tableMap type
  Action.ofExcept ((← get).connection.dialect.createTable m guarded)

def dropText (type : EntityClass) (guarded : Bool) : Action Session String := do
  let m ← tableMap type
  return (← get).connection.dialect.dropTable m guarded

/-- Creates the table of a class, unless it exists. -/
def createTable (type : EntityClass) : Action Session Int := do
  let sql ← createText type true
  onConnection (Connection.execute sql [] schemaOperation)

def createTables (types : List EntityClass) : Action Session Int :=
  types.foldlM (fun total type => do return total + (← createTable type)) 0

/-- Drops the table of a class, if it exists. -/
def dropTable (type : EntityClass) : Action Session Int := do
  let sql ← dropText type true
  onConnection (Connection.execute sql [] schemaOperation)

/-! ### Entities -/

/-- An action on the connection beside another state. -/
def besides {ε α : Type} (a : Action (Connection × ε) α) : Action (Session × ε) α :=
  a.within (fun (s, e) => (s.connection, e)) fun (s, _) (connection, e) =>
    ({ s with connection }, e)

def insert : Action (Session × Entity) Int := do
  let (_, e) ← get
  let m ← (tableMap e.type).first
  besides m.insert

def update (e : Entity) : Action Session Int := do
  let m ← tableMap e.type
  onConnection (m.update e)

def delete (e : Entity) : Action Session Int := do
  let m ← tableMap e.type
  onConnection (m.delete e)

/-- The map of the first of several entities. -/
def mapOf (entities : List Entity) : Action Session (Option TableMap) :=
  match entities with
  | [] => return none
  | e :: _ => some <$> tableMap e.type

def insertAll {κ : Type} [DecidableEq κ] (refs : List κ) :
    Action (Session × EntityStore κ) Int := do
  let (s, store) ← get
  match ← (mapOf (refs.map store)).first with
  | none => return 0
  | some m => besides (m.insertAll s.limit refs)

def updateAll (entities : List Entity) : Action Session Int := do
  match ← mapOf entities with
  | none => return 0
  | some m => onConnection (m.updateAll (← get).limit entities)

def deleteAll (entities : List Entity) : Action Session Int := do
  match ← mapOf entities with
  | none => return 0
  | some m => onConnection (m.deleteAll (← get).limit entities)

/-! ### Statements and transactions -/

/-- The operation of statements that an application writes itself. -/
def plainOperation : String := "execute"

def execute (sql : String) (params : List Value) : Action Session Int :=
  onConnection (Connection.execute sql params plainOperation)

/-- The number of a session's only connection. -/
def connectionNumber : Nat := 0

def planTransaction : Action Session Transaction := do
  Action.ofExcept (Transaction.plan (← get).blocks connectionNumber)

end Session

end RelationalMapper
