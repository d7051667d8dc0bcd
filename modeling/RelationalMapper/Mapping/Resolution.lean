import RelationalMapper.Mapping.Catalog
import RelationalMapper.Text.SnakeCase

/-!
Resolution: the table map of a class. A stated mapping comes first, then the markers of an entity
class, then the convention that columns are named like properties and `id` is an automatic key.
-/

namespace RelationalMapper

namespace Marker

def isNotMapped (markers : List Marker) : Bool := .notMapped ∈ markers

def column? (markers : List Marker) : Option ColumnMarker :=
  markers.findSome? fun
    | .column c => some c
    | _ => none

def key? (markers : List Marker) : Option KeyMarker :=
  markers.findSome? fun
    | .key k => some k
    | _ => none

end Marker

namespace Resolution

/-- The name of a marked column: the key's, the column's, or the property in snake case. -/
def columnName (property : String) (column : Option ColumnMarker) (key : Option KeyMarker) :
    String :=
  let named (name : Option String) : Option String := name.filter (· ≠ "")
  ((named (key.map (·.name))).or (named (column.map (·.name)))).getD (Text.snakeCase property)

def markedDetail (property name : String) (column : Option ColumnMarker) (isKey : Bool) :
    ColumnDetail :=
  let detail : ColumnDetail := match column with
    | some c => { c.toColumnTraits with property, name, ignored := c.ignored }
    | none => { property, name }
  { detail with nullable := detail.nullable && !isKey }

/-- Adds a field by its markers, unless it is a second automatic key. -/
def addMarked (m : TableMap) (property : String) (hint : Hint) : Except Failure TableMap :=
  let markers := hint.markers
  if Marker.isNotMapped markers then .ok m
  else
    let column := Marker.column? markers
    let key := Marker.key? markers
    let name := columnName property column key
    let added : TableMap := { m with
      columns := m.columns.put property name
      fields := m.fields.put property hint
      details := m.details.put property (markedDetail property name column key.isSome) }
    match key, m.autoKey? with
    | none, _ => .ok added
    | some k, some first =>
      if k.auto then .error (.misconfiguration (.secondAutoKey m.type.name property first.property))
      else .ok { added with keys := m.keys.put property ⟨property, name, k.auto⟩ }
    | some k, none => .ok { added with keys := m.keys.put property ⟨property, name, k.auto⟩ }

/-- The map that the markers of a class describe. -/
def byMarkers (type : EntityClass) (table : String) : Except Failure TableMap := do
  let fields ← type.fields
  let m ← fields.foldlM (fun m (property, hint) => addMarked m property hint) { type, table }
  m.checked

/-- The property that is a key by convention. -/
def keyProperty : String := "id"

/-- The map of a class without markers. -/
def byConvention (type : EntityClass) : Except Failure TableMap := do
  let fields ← type.fields
  TableMap.checked
    { type, table := Text.lower type.name
      keys := if fields.has keyProperty then [(keyProperty, ⟨keyProperty, keyProperty, true⟩)]
        else []
      columns := fields.map fun (property, _) => (property, property)
      fields
      details := fields.map fun (property, _) =>
        (property, { property, name := property, nullable := property ≠ keyProperty }) }

/-- The table map of a class. -/
def resolve (catalog : Catalog) (type : EntityClass) : Except Failure TableMap :=
  match catalog.find? type with
  | some stated => stated.toTableMap
  | none =>
    match type.marker with
    | some table => byMarkers type (if table = "" then Text.lower type.name else table)
    | none => byConvention type

end Resolution

end RelationalMapper
