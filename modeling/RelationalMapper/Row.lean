import RelationalMapper.Channel.Statement
import RelationalMapper.Mapping.TableMap
import RelationalMapper.Value.Conversion

/-!
Rows into entities: each label is matched to a property through the table map, and its value enters
the field converted to the declared type. A label without a property, or a value that the field
cannot take, is passed over; a value that there is no room for fails the row.
-/

namespace RelationalMapper

/-- The value in the form in which it enters a field; a field without a single native type takes any
value. -/
def Hint.convert (h : Hint) (v : Value) : Except Failure Value :=
  match h.nativeType? with
  | some target => v.converted target
  | none => .ok v

namespace Row

/-- What is reported when a column is passed over. -/
def skipped (m : TableMap) (label : String) (cause : Failure) : Notice :=
  ⟨.warning, "Skipping column " ++ Text.quoted label ++ " of " ++ m.type.name ++ ": "
    ++ cause.message⟩

/-- Enters one column of a row. -/
def enterColumn (m : TableMap) (e : Entity) (label : String) (value : Value) :
    Action Connection Entity := do
  match m.property? label with
  | none => return e
  | some property =>
    let hint ← Action.ofExcept (m.requireField property)
    match hint.convert value with
    | .ok v => return e.set property v
    | .error .outOfMemory => throw .outOfMemory
    | .error cause =>
      Connection.report (skipped m label cause)
      return e

/-- The entity of a row. -/
def toEntity (m : TableMap) (row : Row) : Action Connection Entity := do
  let blank ← Action.ofExcept (Entity.blank m.type)
  row.foldlM (fun e (label, value) => enterColumn m e label value) blank

/-- The value under the first label. -/
def head? (row : Row) : Except Failure Value :=
  match row with
  | [] => .error .emptyRow
  | (_, value) :: _ => .ok value

end Row

/-- The entity with a generated key in its only automatic key field. -/
def TableMap.assignKey (m : TableMap) (key : KeyPart) (e : Entity) (value : Value) :
    Except Failure Entity := do
  let hint ← m.requireField key.property
  return e.set key.property (← hint.convert value)

end RelationalMapper
