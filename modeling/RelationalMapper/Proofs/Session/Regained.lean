import RelationalMapper.Proofs.Bulk.Partition
import RelationalMapper.Proofs.Bulk.Single
import RelationalMapper.Proofs.Row
import RelationalMapper.Proofs.Session.Operation

/-! # Entities regained from what was inserted

The columns that an insertion names with the values that are bound for them, and the column of the
automatic key with the value that the entity has then, are a row of the entity: read back, it gives an
instance with the same mapped values. -/

namespace RelationalMapper

open RelationalMapper.Action

namespace TableMap

variable {m : TableMap} {style : BindingStyle} {Same : Value → Value → Prop}

/-! ## The row of an entity -/

/-- The automatic key's column with the value that is bound for the key. -/
def keyEntries (m : TableMap) (style : BindingStyle) (e : Entity) : Row :=
  (m.autoKey?.map fun part => (part.column, (e.get part.property).bound style)).toList

/-- The row of an entity that a statement with these values inserted. -/
def insertedRow (m : TableMap) (style : BindingStyle) (e : Entity)
    (sent : String × List Value) : Row :=
  (Sql.insertedColumns sent.1).zip sent.2 ++ m.keyEntries style e

/-- Every mapped value comes back as the same, by whatever is taken for the same. -/
def Regains (m : TableMap) (style : BindingStyle) (Same : Value → Value → Prop) (e : Entity) :
    Prop :=
  ∀ p ∈ m.mappedProperties, ∀ hint, m.fields.get? p = some hint →
    ∃ w, hint.convert ((e.get p).bound style) = .ok w ∧ Same w (e.get p)

/-- There is room for the value of an automatic key that is not mapped: the field takes it or refuses
it. -/
def KeyHasRoom (m : TableMap) (style : BindingStyle) (e : Entity) : Prop :=
  ∀ part, m.autoKey? = some part → part.property ∉ m.mappedProperties →
    ∀ hint, m.fields.get? part.property = some hint →
      hint.convert ((e.get part.property).bound style) ≠ .error .outOfMemory

/-- The values of an entity as they are bound, under their columns. -/
def entityRow (m : TableMap) (style : BindingStyle) (e : Entity) : Row :=
  m.insertProperties.map (fun (p, column) => (column, (e.get p).bound style)) ++
    m.keyEntries style e

/-- What an insertion binds stands under the columns that it names. -/
theorem insertedRow_eq {sql : String} (h : Sql.insertedColumns sql = m.insertProperties.values)
    (style : BindingStyle) (e : Entity) :
    m.insertedRow style e (sql, (m.insertRow e).map (·.bound style)) = m.entityRow style e := by
  have hzip : m.insertProperties.values.zip ((m.insertRow e).map (·.bound style)) =
      m.insertProperties.map fun (p, column) => (column, (e.get p).bound style) := by
    rw [insertRow, Entries.values, Entries.names, List.map_map, List.map_map, List.zip_map']
    rfl
  rw [insertedRow, h, hzip, entityRow]

theorem mem_columns_of_mem_mapped {entry : String × String} (h : entry ∈ m.mapped) :
    entry ∈ m.columns := (List.mem_filter.mp h).1

/-- The row holds values under the columns of their properties. -/
theorem draws_entityRow (hm : m.Keyed) {e : Entity} (hvalues : m.Regains style Same e)
    (hkey : m.KeyHasRoom style e) :
    Row.Draws m (fun p => (e.get p).bound style) (m.entityRow style e) := by
  have hroom : ∀ p ∈ m.mappedProperties, ∀ hint, m.fields.get? p = some hint →
      hint.convert ((e.get p).bound style) ≠ .error .outOfMemory := by
    intro p hp hint hfield
    obtain ⟨w, hw, -⟩ := hvalues p hp hint hfield
    simp [hw]
  intro entry hentry
  rcases List.mem_append.mp hentry with hbound | hauto
  · obtain ⟨⟨p, column⟩, hmem, rfl⟩ := List.mem_map.mp hbound
    have hmapped := (List.mem_filter.mp hmem).1
    exact ⟨p, mem_columns_of_mem_mapped hmapped, rfl,
      hroom p (List.mem_map.mpr ⟨_, hmapped, rfl⟩)⟩
  · obtain ⟨part, hpart, rfl⟩ := Option.map_eq_some_iff.mp (Option.mem_toList.mp hauto)
    refine ⟨part.property, hm.mem_columns (List.mem_of_find?_eq_some hpart), rfl, ?_⟩
    by_cases hmapped : part.property ∈ m.mappedProperties
    · exact hroom _ hmapped
    · exact hkey part hpart hmapped

/-- Every mapped property has a column in the row. -/
theorem exists_column (hm : m.Keyed) {p : String} (hp : p ∈ m.mappedProperties)
    (style : BindingStyle) (e : Entity) :
    ∃ column, (p, column) ∈ m.columns ∧ column ∈ (m.entityRow style e).names := by
  by_cases hinsert : p ∈ m.insertProperties.names
  · obtain ⟨⟨p, column⟩, hmem, rfl⟩ := List.mem_map.mp hinsert
    exact ⟨column, mem_columns_of_mem_mapped (List.mem_filter.mp hmem).1,
      List.mem_map.mpr ⟨_, List.mem_append_left _ (List.mem_map.mpr ⟨_, hmem, rfl⟩), rfl⟩⟩
  · obtain ⟨part, hpart, rfl⟩ := hm.autoKey?_of_not_inserted hp hinsert
    refine ⟨part.column, hm.mem_columns (List.mem_of_find?_eq_some hpart), List.mem_map.mpr
      ⟨(part.column, (e.get part.property).bound style), List.mem_append_right _ ?_, rfl⟩⟩
    simp [keyEntries, hpart]

/-- The row gives an instance that agrees with the entity on every mapped property, in whatever order
its columns come. -/
def RegainedBy (m : TableMap) (Same : Value → Value → Prop) (e : Entity) (row : Row) : Prop :=
  ∀ read : Row, read.Perm row → ∀ c, ∃ regained c',
    (read.toEntity m).perform c = (.ok regained, c') ∧ regained.type = m.type ∧
      ∀ p ∈ m.mappedProperties, Same (regained.get p) (e.get p)

theorem regainedBy_entityRow (hm : m.Resolved) (hcolumns : m.columns.values.Nodup)
    (hmade : m.type.construction ≠ .fails) {e : Entity} (hvalues : m.Regains style Same e)
    (hkey : m.KeyHasRoom style e) : m.RegainedBy Same e (m.entityRow style e) := by
  intro row hrow c
  have hdraws : Row.Draws m (fun p => (e.get p).bound style) row := fun entry hentry =>
    draws_entityRow hm.keyed hvalues hkey entry (hrow.mem_iff.mp hentry)
  obtain ⟨restored, c', hrun, htype, hentered⟩ :=
    Row.perform_toEntity hm.coherent hcolumns hmade hdraws c
  refine ⟨restored, c', hrun, htype, fun p hp => ?_⟩
  obtain ⟨column, hmem, hname⟩ := exists_column hm.keyed hp style e
  obtain ⟨hint, hfield⟩ := hm.coherent.field_of_column p
    ((Entries.has_iff_mem_names _ _).mpr (List.mem_map.mpr ⟨_, hmem, rfl⟩))
  obtain ⟨w, hw, hsame⟩ := hvalues p hp hint hfield
  have hget := hentered p column hmem ((hrow.map Prod.fst).mem_iff.mpr hname) hint w hfield hw
  rwa [hget]

end TableMap

namespace Session

/-- An insertion in a session is one with the map of the entity's class. -/
theorem insert_of_tableMap {s s₁ s' : Session} {e e' : Entity} {n : Int} {m : TableMap}
    (hmap : (tableMap e.type).perform s = (.ok m, s₁))
    (h : Session.insert.perform (s, e) = (.ok n, (s', e'))) :
    m.insert.perform (s.connection, e) = (.ok n, (s'.connection, e')) := by
  have hkept := keeps_tableMap e.type s
  rw [hmap] at hkept
  simp only [Session.insert, perform_bind, perform_get, perform_first, hmap, besides,
    perform_within] at h
  obtain ⟨hresult, hstate⟩ := Prod.mk.inj h
  obtain ⟨hsession, hentity⟩ := Prod.mk.inj hstate
  rw [← hkept]
  refine Prod.ext hresult (Prod.ext ?_ hentity)
  rw [← hsession]

/-- An entity that was inserted is regained from its row: the columns that the insertion named with the
values that were bound for them, and the automatic key. -/
theorem insert_regained {s s₁ s' : Session} {e e' : Entity} {n : Int} {m : TableMap}
    {Same : Value → Value → Prop} (hmap : (tableMap e.type).perform s = (.ok m, s₁))
    (hm : m.Resolved) (hcolumns : m.columns.values.Nodup) (hmade : m.type.construction ≠ .fails)
    (hinsert : Session.insert.perform (s, e) = (.ok n, (s', e')))
    (hvalues : m.Regains s.connection.dialect.bindingStyle Same e')
    (hkey : m.KeyHasRoom s.connection.dialect.bindingStyle e') :
    ∃ calls sent, s'.connection.driver.trace = s.connection.driver.trace ++ calls ∧
      s.connection.dialect.handed "INSERT" calls = [sent] ∧
      m.RegainedBy Same e' (m.insertedRow s.connection.dialect.bindingStyle e' sent) := by
  obtain ⟨calls, sql, htrace, hhanded, hnamed⟩ :=
    TableMap.handed_of_insert hm.coherent (insert_of_tableMap hmap hinsert)
  refine ⟨calls, _, htrace, hhanded, ?_⟩
  rw [TableMap.insertedRow_eq hnamed]
  exact TableMap.regainedBy_entityRow hm hcolumns hmade hvalues hkey

/-- A session whose driver tells the key that it made. -/
def tellingSession : Session :=
  { connection := { dialect := .mySql, driver := { responses := [{ lastRowId := .int 7 }] } } }

/-- An item comes back with its name and the key that it got. -/
theorem insert_regained_item :
    let p := Session.insert.perform (tellingSession, TableMap.itemStore 0)
    p.2.2.get "id" = .int 7 ∧
      ∃ calls sent,
        p.2.1.connection.driver.trace = tellingSession.connection.driver.trace ++ calls ∧
        Dialect.mySql.handed "INSERT" calls = [sent] ∧
        TableMap.itemMap.RegainedBy Eq p.2.2
          (TableMap.itemMap.insertedRow Dialect.mySql.bindingStyle p.2.2 sent) := by
  have hid : (Session.insert.perform (tellingSession, TableMap.itemStore 0)).2.2.get "id" =
      .int 7 := by decide +kernel
  have hname : (Session.insert.perform (tellingSession, TableMap.itemStore 0)).2.2.get "name" =
      .text "0" := by decide +kernel
  have hmapped : TableMap.itemMap.mappedProperties = ["id", "name"] := by decide +kernel
  have hvalues : TableMap.itemMap.Regains Dialect.mySql.bindingStyle Eq
      (Session.insert.perform (tellingSession, TableMap.itemStore 0)).2.2 := by
    intro p hp hint hfield
    rw [hmapped, List.mem_pair] at hp
    rcases hp with rfl | rfl
    · obtain rfl := Option.some.inj hfield
      rw [hid]
      exact ⟨.int 7, rfl, rfl⟩
    · obtain rfl := Option.some.inj hfield
      rw [hname]
      exact ⟨.text "0", rfl, rfl⟩
  have hkey : TableMap.itemMap.KeyHasRoom Dialect.mySql.bindingStyle
      (Session.insert.perform (tellingSession, TableMap.itemStore 0)).2.2 := by
    intro part hpart hmissing
    obtain rfl := Option.some.inj hpart
    exact absurd (by decide +kernel) hmissing
  exact ⟨hid, insert_regained (s := tellingSession) (e := TableMap.itemStore 0)
    (m := TableMap.itemMap) (n := 1) (Prod.ext rfl rfl) TableMap.resolved_itemMap
    (by decide +kernel) (by decide +kernel) (Prod.ext rfl rfl) hvalues hkey⟩

/-! ## A key that is not mapped -/

/-- A class whose automatic key is ignored. -/
def tagClass : EntityClass :=
  { name := "Tag", marker := some "tag"
    lineage := [{ name := "Tag", defaults := [], construction := none
                  fields := [("id", .annotated (.type .int)
                      [.key { name := "id" }, .column { name := "id", ignored := true }]),
                    ("name", .annotated (.type .text) [.column { name := "name" }])] }] }

def tagMap : TableMap :=
  { type := tagClass, table := "tag"
    keys := [("id", ⟨"id", "id", true⟩)]
    columns := [("id", "id"), ("name", "name")]
    fields := [("id", .annotated (.type .int)
        [.key { name := "id" }, .column { name := "id", ignored := true }]),
      ("name", .annotated (.type .text) [.column { name := "name" }])]
    details := [("id", { property := "id", name := "id", nullable := false, length := 255
                         ignored := true }),
      ("name", { property := "name", name := "name", length := 255 })] }

/-- A session whose driver tells no key. -/
def silentSession : Session := { connection := { dialect := .mySql } }

/-- A tag whose key is a number with more digits than there is room for. -/
def vastTag : Entity :=
  { type := tagClass
    attributes := [("id", .scalar (.decimal (.finite false 1 999999999999999999))),
      ("name", .text "pen")] }

/-- The key of this tag is not mapped, all that is mapped comes back, and yet the row of the tag gives
no instance: the whole number of the key is asked for, and there is no room for it. -/
theorem insert_unregained_vast :
    let p := Session.insert.perform (silentSession, vastTag)
    ((tableMap vastTag.type).perform silentSession).1 = .ok tagMap ∧
      tagMap.Resolved ∧ tagMap.columns.values.Nodup ∧ tagMap.type.construction ≠ .fails ∧
      p.1 = .ok 1 ∧ tagMap.Regains Dialect.mySql.bindingStyle Eq p.2.2 ∧
      ∃ calls sent,
        p.2.1.connection.driver.trace = silentSession.connection.driver.trace ++ calls ∧
        Dialect.mySql.handed "INSERT" calls = [sent] ∧
        ¬ tagMap.RegainedBy Eq p.2.2
          (tagMap.insertedRow Dialect.mySql.bindingStyle p.2.2 sent) := by
  have hname : (Session.insert.perform (silentSession, vastTag)).2.2.get "name" = .text "pen" := by
    decide +kernel
  refine ⟨rfl, ⟨[], tagClass, by simp [Catalog.Drafted], rfl⟩, by decide +kernel,
    by decide +kernel, rfl, ?_, ?_⟩
  · intro p hp hint hfield
    have hmapped : tagMap.mappedProperties = ["name"] := by decide +kernel
    rw [hmapped, List.mem_singleton] at hp
    subst hp
    obtain rfl := Option.some.inj hfield
    rw [hname]
    exact ⟨.text "pen", rfl, rfl⟩
  · refine ⟨_, ("INSERT INTO `tag` (`name`) VALUES (?)", [.text "pen"]), (List.nil_append _).symm,
      by decide +kernel, fun h => ?_⟩
    obtain ⟨regained, c', hrun, -⟩ := h _ (.refl _) { dialect := .mySql }
    have hok : _ = true := congrArg (·.1.isOk) hrun
    exact absurd hok (by decide +kernel)

end Session

end RelationalMapper
