import RelationalMapper.Bulk.Update

/-!
Deleting entities by their keys. Many are deleted in chunks: by a list of values where there is one
key, and by alternatives where a key has several parts.
-/

namespace RelationalMapper.TableMap

/-- The operation of deletions. -/
def deleteOperation : String := "delete"

def keyColumns (m : TableMap) : List String := m.keys.values.map (·.column)

/-- Deletes the row of an entity and tells how many rows that were. -/
def delete (m : TableMap) (e : Entity) : Action Connection Int := do
  let params ← Action.ofExcept (m.keyValues e deleteOperation)
  let sql := (← get).dialect.renderDeletion { table := m.table, rows := .byKey m.keyColumns }
  Connection.execute sql params deleteOperation

/-- The choice of `count` rows by their keys. -/
def choice (m : TableMap) (count : Nat) : RowChoice :=
  match m.keyColumns with
  | [column] => .oneOf column count
  | columns => .anyOf columns count

/-- Deletes the rows with the given keys with one statement. -/
def deleteChunk (m : TableMap) (keys : List (List Value)) : Action Connection Int := do
  let sql := (← get).dialect.renderDeletion { table := m.table, rows := m.choice keys.length }
  Connection.execute sql keys.flatten deleteOperation

def checkKeyed (m : TableMap) : Except Failure Unit :=
  if m.keys = [] then .error (.misuse (.noKey deleteOperation m.type.name)) else .ok ()

/-- Deletes the rows of entities and tells how many rows that were. -/
def deleteAll (m : TableMap) (limit : ParameterLimit) (entities : List Entity) :
    Action Connection Int := do
  if entities.isEmpty then return 0
  Action.ofExcept (m.checkTypes entities)
  Action.ofExcept m.checkKeyed
  let keys ← Action.ofExcept (entities.mapM (m.keyValues · deleteOperation))
  inChunks (limit.rows m.keys.length) keys m.deleteChunk

end RelationalMapper.TableMap
