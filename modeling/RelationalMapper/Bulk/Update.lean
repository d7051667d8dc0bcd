import RelationalMapper.Bulk.Insert

/-!
Updating entities by their keys: every column that is not a key is assigned, from the entity as it
is. Many entities take one statement, whose sets of parameters are queued and sent in chunks.
-/

namespace RelationalMapper.TableMap

/-- The operation of updates. -/
def updateOperation : String := "update"

/-- The map has keys to find a row by, and something to assign. -/
def checkUpdatable (m : TableMap) : Except Failure Unit :=
  if m.keys = [] then .error (.misuse (.noKey updateOperation m.type.name))
  else if m.updateProperties = [] then .error (.misuse (.nothingToUpdate m.type.name))
  else .ok ()

/-- The values that an update binds: what it assigns, and then the keys. -/
def updateValues (m : TableMap) (e : Entity) : Except Failure (List Value) := do
  let keys ← m.keyValues e updateOperation
  return (← m.updateProperties.names.mapM (m.value e)) ++ keys

def updateText (m : TableMap) (d : Dialect) : String := d.renderUpdate m.keyedUpdate

/-- Updates the row of an entity and tells how many rows that changed. -/
def update (m : TableMap) (e : Entity) : Action Connection Int := do
  Action.ofExcept m.checkUpdatable
  let params ← Action.ofExcept (m.updateValues e)
  Connection.execute (m.updateText (← get).dialect) params updateOperation

/-- Sends an update once for each set of parameters. -/
def updateChunk (m : TableMap) (sets : List (List Value)) : Action Connection Int := do
  Connection.onStatement (m.updateText (← get).dialect) updateOperation do
    sets.forM fun params => Channel.changeIfPossible (·.bindAll params |>.addBatch)
    Channel.executeBatch

/-- How many parameters one update binds. -/
def updateWidth (m : TableMap) : Nat := m.updateProperties.length + m.keys.length

/-- Updates the rows of entities and tells how many rows that changed. -/
def updateAll (m : TableMap) (limit : ParameterLimit) (entities : List Entity) :
    Action Connection Int := do
  if entities.isEmpty then return 0
  Action.ofExcept (m.checkTypes entities)
  Action.ofExcept m.checkUpdatable
  let sets ← Action.ofExcept (entities.mapM m.updateValues)
  inChunks (limit.rows m.updateWidth) sets m.updateChunk

end RelationalMapper.TableMap
