import RelationalMapper.Bulk.Limit
import RelationalMapper.Channel.Keys
import RelationalMapper.Dialect.Write
import RelationalMapper.Row

/-!
Inserting entities, one at a time or many at once. Many are checked as a whole and then sent in
chunks, each as one statement. The keys that the database made are written back to the entities in
the order in which these were given.
-/

namespace RelationalMapper

/-- Entities by what refers to them. -/
abbrev EntityStore (κ : Type) := κ → Entity

namespace EntityStore

variable {κ : Type} [DecidableEq κ]

def put (store : EntityStore κ) (ref : κ) (e : Entity) : EntityStore κ :=
  fun other => if other = ref then e else store other

@[simp] theorem put_self (store : EntityStore κ) (ref : κ) (e : Entity) :
    store.put ref e ref = e := if_pos rfl

theorem put_of_ne (store : EntityStore κ) {ref other : κ} (e : Entity) (h : other ≠ ref) :
    store.put ref e other = store other := if_neg h

end EntityStore

namespace TableMap

/-- The operation of insertions. -/
def insertOperation : String := "insert"

/-- The values that an insertion binds for one entity. -/
def insertValues (m : TableMap) (e : Entity) : Except Failure (List Value) :=
  m.insertProperties.names.mapM (m.value e)

/-- There is something to insert. -/
def checkInsertable (m : TableMap) : Except Failure Unit :=
  if m.insertProperties = [] then .error (.misuse (.nothingToInsert m.type.name)) else .ok ()

def insertText (m : TableMap) (d : Dialect) (rows : Nat) : String :=
  d.renderInsertion (d.insertion m m.insertProperties.values rows)

/-- The automatic key that an insertion gives back in its result. -/
def returnedKey? (m : TableMap) (d : Dialect) : Option KeyPart :=
  if d.returnsKeys then m.singleAutoKey? else none

/-- Inserts rows with the given parameters, and tells how many there were and the keys that the
database made, each of which may turn out not to be there. -/
def sendInsertion (m : TableMap) (params : List Value) :
    Action Channel (Int × List (Except Failure Value)) := do
  let d := (← get).connection.dialect
  Channel.change (·.bindAll params)
  if (m.returnedKey? d).isSome then
    let rows ← Channel.executeQuery
    return (rows.length, rows.map Row.head?)
  else
    let count ← Channel.executeUpdate
    if m.singleAutoKey?.isNone then return (count, [])
    return (count, (← Channel.generatedKeys).map .ok)

/-- The entity with a key that the database made. -/
def withKey (m : TableMap) (e : Entity) (key : Except Failure Value) : Except Failure Entity := do
  let value ← key
  match m.singleAutoKey? with
  | some part => m.assignKey part e value
  | none => return e

/-- Inserts an entity and tells how many rows that made; the entity gets its key. -/
def insert (m : TableMap) : Action (Connection × Entity) Int := do
  let (connection, e) ← get
  let d := connection.dialect
  Action.ofExcept m.checkInsertable
  let params ← Action.ofExcept (m.insertValues e)
  Connection.withStatement (m.insertText d 1) insertOperation do
    let (count, keys) ← (m.sendInsertion params).first
    if let key :: _ := keys then
      let keyed ← Action.ofExcept (m.withKey e key)
      Action.second (set keyed)
    return if (m.returnedKey? d).isSome then min count 1 else count

section Many

variable {κ : Type} [DecidableEq κ]

/-- All entities are of the map's own class. -/
def checkTypes (m : TableMap) (entities : List Entity) : Except Failure Unit :=
  match entities.find? (·.type ≠ m.type) with
  | some e => .error (.misuse (.mixedBatch m.type.name e.type.name))
  | none => .ok ()

/-- Properties of the keys that the database does not make. -/
def manualKeys (m : TableMap) : List String :=
  (m.keys.values.filter (!·.auto)).map (·.property)

/-- No key that the database does not make is null. -/
def checkManualKeys (m : TableMap) (e : Entity) : Except Failure Unit :=
  m.manualKeys.forM fun property => do
    if (← m.value e property) = .null then
      .error (.misuse (.nullKey insertOperation property m.type.name))
    else .ok ()

/-- Writes keys back, one after the other. -/
def assignKeys (m : TableMap) (refs : List κ) (keys : List (Except Failure Value)) :
    Action (EntityStore κ) Unit :=
  (refs.zip keys).forM fun (ref, key) => do
    let store ← get
    set (store.put ref (← Action.ofExcept (m.withKey (store ref) key)))

/-- Inserts the entities of one chunk with one statement. -/
def insertChunk (m : TableMap) (refs : List κ) : Action (Connection × EntityStore κ) Int := do
  let (connection, store) ← get
  let params ← Action.ofExcept (refs.mapM fun ref => m.insertValues (store ref))
  Connection.withStatement (m.insertText connection.dialect refs.length) insertOperation do
    let (count, keys) ← (m.sendInsertion params.flatten).first
    (m.assignKeys refs keys).second
    return count

/-- What must hold of all entities before any of them is sent. -/
def checkInsertion (m : TableMap) (entities : List Entity) : Except Failure Unit := do
  m.checkTypes entities
  m.checkInsertable
  entities.forM m.checkManualKeys

/-- Runs an action for each chunk and adds up the counts. -/
def inChunks {σ α : Type} (size : Nat) (items : List α) (send : List α → Action σ Int) :
    Action σ Int :=
  (chunks size items).foldlM (fun total chunk => do return total + (← send chunk)) 0

/-- Inserts entities and tells how many rows that made. -/
def insertAll (m : TableMap) (limit : ParameterLimit) (refs : List κ) :
    Action (Connection × EntityStore κ) Int := do
  if refs.isEmpty then return 0
  let (_, store) ← get
  Action.ofExcept (m.checkInsertion (refs.map store))
  inChunks (limit.rows m.insertProperties.length) refs m.insertChunk

end Many

end TableMap

end RelationalMapper
