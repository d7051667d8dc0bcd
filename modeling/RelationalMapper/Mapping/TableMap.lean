import RelationalMapper.Mapping.EntityClass
import RelationalMapper.Text.LetterCase

/-!
Table maps: which table a class is stored in, which column each property, which properties are its
key. The order of the properties is the column order of every statement.
-/

namespace RelationalMapper

/-- One component of a primary key. -/
structure KeyPart where
  property : String
  column : String
  auto : Bool := false
  deriving Repr, DecidableEq, Inhabited

/-- What is said about the column of a property beyond its name. -/
structure ColumnDetail extends ColumnTraits where
  property : String
  name : String
  ignored : Bool := false
  deriving DecidableEq, Inhabited

namespace ColumnDetail

/-- The stated type with its precision and scale. -/
def effectiveType (d : ColumnDetail) : String :=
  if d.type ≠ "" ∧ 0 < d.precision ∧ 0 ≤ d.scale then
    d.type ++ "(" ++ Number.intText d.precision ++ "," ++ Number.intText d.scale ++ ")"
  else d.type

/-- The stated type in capitals without blanks around it. -/
def userType? (d : ColumnDetail) : Option String :=
  let text := Text.upper (Text.trim d.type)
  if text = "" then none else some text

end ColumnDetail

structure TableMap where
  type : EntityClass
  table : String
  keys : Entries KeyPart := []
  columns : Entries String := []
  fields : Entries Hint := []
  details : Entries ColumnDetail := []
  deriving DecidableEq, Inhabited

namespace TableMap

/-- Properties with a key or a detail but without a column. -/
def unmapped (keys : Entries KeyPart) (columns : Entries String)
    (details : Entries ColumnDetail) : List String :=
  (keys.names ++ details.names).filter fun p => !columns.has p

def autoProperties (keys : Entries KeyPart) : List String :=
  (keys.values.filter (·.auto)).map (·.property)

/-- The map itself, if every key and detail has a column and at most one key is automatic. -/
def checked (m : TableMap) : Except Failure TableMap :=
  let missing := unmapped m.keys m.columns m.details
  let autos := autoProperties m.keys
  if missing ≠ [] then .error (.misconfiguration (.unmapped m.type.name missing))
  else if 1 < autos.length then .error (.misconfiguration (.severalAutoKeys m.type.name autos))
  else .ok m

/-- The detail of a property that is stored in `column`. -/
def detailAt (m : TableMap) (property column : String) : ColumnDetail :=
  (m.details.get? property).getD { property, name := column }

/-- The detail of a property, if it has one or has a column. -/
def detail? (m : TableMap) (property : String) : Option ColumnDetail :=
  (m.details.get? property).or ((m.columns.get? property).map fun name => { property, name })

def isIgnored (m : TableMap) (property : String) : Bool :=
  (m.details.get? property).any (·.ignored)

/-- Properties with their columns, less the ignored ones. -/
def mapped (m : TableMap) : Entries String := m.columns.filter fun (p, _) => !m.isIgnored p

def mappedProperties (m : TableMap) : List String := m.mapped.names

def column? (m : TableMap) (property : String) : Option String := m.columns.get? property

/-- The first property whose column is accepted. -/
def propertyWhere? (m : TableMap) (accepts : String → Bool) : Option String :=
  (m.columns.find? fun (_, column) => accepts column).map (·.1)

/-- The property of a column label, compared exactly and, if none is equal, without case. -/
def property? (m : TableMap) (label : String) : Option String :=
  (m.propertyWhere? (· = label)).or (m.propertyWhere? fun c => Text.lower c = Text.lower label)

def autoKey? (m : TableMap) : Option KeyPart := m.keys.values.find? (·.auto)

/-- The automatic key, if it is the only key. -/
def singleAutoKey? (m : TableMap) : Option KeyPart :=
  if m.keys.length = 1 then m.autoKey? else none

/-- The property is a field of the class. -/
def requireField (m : TableMap) (property : String) : Except Failure Hint :=
  (m.fields.get? property).elim (.error .unknownName) .ok

/-- The value of a property. -/
def value (m : TableMap) (e : Entity) (property : String) : Except Failure Value :=
  (m.requireField property).map fun _ => e.get property

/-- The values of the keys in key order, none of them null. -/
def keyValues (m : TableMap) (e : Entity) (operation : String) : Except Failure (List Value) :=
  if m.keys = [] then .error (.misuse (.noKey operation m.type.name))
  else m.keys.values.mapM fun key => do
    let value ← m.value e key.property
    if value = .null then .error (.misuse (.nullKey operation key.property m.type.name))
    else .ok value

/-- Properties that an insertion binds: all but the automatic keys. -/
def insertProperties (m : TableMap) : Entries String :=
  m.mapped.filter fun (p, _) => p ∉ autoProperties m.keys

/-- Properties that an update assigns: all but the keys. -/
def updateProperties (m : TableMap) : Entries String :=
  m.mapped.filter fun (p, _) => !m.keys.has p

end TableMap

end RelationalMapper
