import RelationalMapper.Mapping.TableMap

/-!
The catalogue of mappings that an application states itself, and the draft in which it states one
step by step. A mapping enters the catalogue only when it agrees with the fields of its class.
-/

namespace RelationalMapper

/-- A mapping that was stated and found to agree with its class. -/
structure StatedMapping where
  type : EntityClass
  table : String
  keys : Entries KeyPart
  columns : Entries String
  details : Entries ColumnDetail
  fields : Entries Hint
  deriving DecidableEq, Inhabited

namespace StatedMapping

/-- The fields that the properties with a column name. -/
def fieldsOf (type : EntityClass) (columns : Entries String) : Except Failure (Entries Hint) := do
  let declared ← type.fields
  columns.names.mapM fun property =>
    match declared.get? property with
    | some hint => .ok (property, hint)
    | none => .error (.misconfiguration (.noField property type.name))

/-- A mapping whose columns belong to fields of the class, whose keys and details have columns, and
which has at most one automatic key. -/
def of (type : EntityClass) (table : String) (keys : Entries KeyPart) (columns : Entries String)
    (details : Entries ColumnDetail) : Except Failure StatedMapping := do
  let fields ← fieldsOf type columns
  match TableMap.unmapped keys columns details with
  | property :: _ => .error (.misconfiguration (.declaredButUnmapped type.name property))
  | [] =>
    let autos := TableMap.autoProperties keys
    if 1 < autos.length then .error (.misconfiguration (.severalAutoKeys type.name autos))
    else .ok { type, table, keys, columns, details, fields }

def toTableMap (m : StatedMapping) : Except Failure TableMap :=
  TableMap.checked
    { type := m.type, table := m.table, keys := m.keys, columns := m.columns, fields := m.fields
      details := m.details }

end StatedMapping

/-- Mappings under the names of their classes. -/
abbrev Catalog := Entries StatedMapping

namespace Catalog

def register (catalog : Catalog) (m : StatedMapping) : Catalog := catalog.put m.type.name m

def find? (catalog : Catalog) (type : EntityClass) : Option StatedMapping :=
  catalog.get? type.name

def isRegistered (catalog : Catalog) (type : EntityClass) : Bool := (catalog.find? type).isSome

end Catalog

/-- A mapping in the making. -/
structure MappingDraft where
  type : EntityClass
  table : String
  keys : Entries KeyPart := []
  columns : Entries String := []
  details : Entries ColumnDetail := []
  deriving DecidableEq, Inhabited

namespace MappingDraft

/-- A draft begins with the lower-case name of the class as its table. -/
def start (type : EntityClass) : MappingDraft := { type, table := Text.lower type.name }

def toTable (d : MappingDraft) (table : String) : MappingDraft := { d with table }

/-- A column that is not named has the name of its property. -/
def columnName (property : String) (column : Option String) : String :=
  match column with
  | some name => if name = "" then property else name
  | none => property

/-- Declares a key. -/
def hasKey (d : MappingDraft) (property : String) (column : Option String) (auto : Bool) :
    MappingDraft :=
  let name := columnName property column
  { d with
    keys := d.keys.put property { property, column := name, auto }
    columns := d.columns.put property name
    details := d.details.put property { property, name, nullable := false } }

/-- Maps a property to a column; a key stays a key and is never nullable. -/
def map (d : MappingDraft) (property : String) (column : Option String) (traits : ColumnTraits) :
    MappingDraft :=
  let name := columnName property column
  let key? := d.keys.get? property
  { d with
    columns := d.columns.put property name
    keys := match key? with
      | some key => d.keys.put property { property, column := name, auto := key.auto }
      | none => d.keys
    details := d.details.put property
      { traits with property, name, nullable := traits.nullable && key?.isNone } }

/-- Keeps a property out of every statement that writes. -/
def ignore (d : MappingDraft) (property : String) : MappingDraft :=
  let columns := if d.columns.has property then d.columns else d.columns.put property property
  let name := (columns.get? property).getD property
  let current := (d.details.get? property).getD { property, name }
  { d with columns, details := d.details.put property { current with ignored := true } }

/-- The finished mapping, if it agrees with the class. -/
def finished (d : MappingDraft) : Except Failure StatedMapping :=
  StatedMapping.of d.type d.table d.keys d.columns d.details

/-- The steps that a draft is made of. -/
inductive Step where
  | toTable (table : String)
  | hasKey (property : String) (column : Option String) (auto : Bool)
  | map (property : String) (column : Option String) (traits : ColumnTraits)
  | ignore (property : String)
  deriving DecidableEq, Inhabited

def apply (d : MappingDraft) : Step → MappingDraft
  | .toTable table => d.toTable table
  | .hasKey property column auto => d.hasKey property column auto
  | .map property column traits => d.map property column traits
  | .ignore property => d.ignore property

def ofSteps (type : EntityClass) (steps : List Step) : MappingDraft :=
  steps.foldl apply (start type)

end MappingDraft

end RelationalMapper
