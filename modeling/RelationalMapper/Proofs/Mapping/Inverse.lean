import RelationalMapper.Proofs.Mapping.Marked

/-! # From columns back to properties

A column label leads to the first property that is stored in it. That is the way back from a property to
its column as long as no two properties share one, which nothing asks of them but the convention: columns
are taken as they are declared. -/

namespace RelationalMapper

namespace TableMap

variable {m : TableMap} {p column : String}

/-- The property is the first one, in the order of the columns, that is stored in the column. -/
def FirstAt (m : TableMap) (p column : String) : Prop :=
  ∃ before after, m.columns = before ++ (p, column) :: after ∧ column ∉ Entries.values before

theorem propertyWhere?_eq_some_iff : m.propertyWhere? (· = column) = some p ↔ m.FirstAt p column := by
  rw [propertyWhere?, Option.map_eq_some_iff]
  constructor
  · rintro ⟨⟨p, column'⟩, hfound, rfl⟩
    obtain ⟨haccepted, before, after, hsplit, hbefore⟩ := List.find?_eq_some_iff_append.mp hfound
    obtain rfl : column' = column := by simpa using haccepted
    refine ⟨before, after, hsplit, fun hmem => ?_⟩
    obtain ⟨entry, hentry, hsame⟩ := List.mem_map.mp hmem
    simpa [hsame] using hbefore entry hentry
  · rintro ⟨before, after, hsplit, hbefore⟩
    refine ⟨(p, column), List.find?_eq_some_iff_append.mpr ⟨by simp, before, after, hsplit, ?_⟩, rfl⟩
    intro entry hentry
    have hother : entry.2 ≠ column := by
      rintro rfl
      exact hbefore (List.mem_map.mpr ⟨entry, hentry, rfl⟩)
    simpa using hother

theorem exists_firstAt (h : (p, column) ∈ m.columns) : ∃ first, m.FirstAt first column := by
  cases hfirst : m.propertyWhere? (· = column) with
  | some first => exact ⟨first, propertyWhere?_eq_some_iff.mp hfirst⟩
  | none =>
      have hnone := List.find?_eq_none.mp (Option.map_eq_none_iff.mp hfirst) _ h
      simp at hnone

theorem FirstAt.property? (h : m.FirstAt p column) : m.property? column = some p := by
  rw [TableMap.property?, propertyWhere?_eq_some_iff.mpr h, Option.some_or]

theorem FirstAt.mem (h : m.FirstAt p column) : (p, column) ∈ m.columns := by
  obtain ⟨before, after, hsplit, -⟩ := h
  rw [hsplit]
  exact List.mem_append_right _ List.mem_cons_self

/-- A column that stands in the map once belongs to its property. -/
theorem property?_of_mem (hcolumns : m.columns.values.Nodup) (h : (p, column) ∈ m.columns) :
    m.property? column = some p := by
  obtain ⟨first, hfirst⟩ := exists_firstAt h
  have hsame : (first, column) = (p, column) := List.inj_on_of_nodup_map hcolumns hfirst.mem h rfl
  rw [hfirst.property?, (Prod.mk.inj hsame).1]

/-- The label of a column, read back as a property. -/
structure FindsFirst (m : TableMap) : Prop where
  found : ∀ p column, m.column? p = some column →
    ∃ first, m.property? column = some first ∧ m.FirstAt first column
  own : ∀ p column, m.column? p = some column →
    (m.property? column = some p ↔ m.FirstAt p column)
  inverse : (∀ p column, m.column? p = some column → m.property? column = some p) ↔
    m.columns.values.Nodup

theorem findsFirst (hnodup : m.columns.names.Nodup) : m.FindsFirst := by
  have hfound : ∀ p column, m.column? p = some column →
      ∃ first, m.property? column = some first ∧ m.FirstAt first column := by
    intro p column hp
    obtain ⟨first, hfirst⟩ := exists_firstAt (Entries.mem_of_get? hp)
    exact ⟨first, hfirst.property?, hfirst⟩
  refine ⟨hfound, fun p column hp => ?own, fun hinverse => ?distinct, fun hdistinct p column hp => ?back⟩
  case own =>
    refine ⟨fun hproperty => ?_, FirstAt.property?⟩
    obtain ⟨first, hread, hfirst⟩ := hfound p column hp
    obtain rfl := Option.some.inj (hproperty.symm.trans hread)
    exact hfirst
  case distinct =>
    refine List.Nodup.map_on ?_ (List.Nodup.of_map Prod.fst hnodup)
    rintro ⟨p, column⟩ hp ⟨q, column'⟩ hq rfl
    have hback := hinverse p column (Entries.get?_of_mem hnodup hp)
    have hback' := hinverse q column (Entries.get?_of_mem hnodup hq)
    rw [Option.some.inj (hback.symm.trans hback')]
  case back => exact property?_of_mem hdistinct (Entries.mem_of_get? hp)

end TableMap

namespace Resolution

/-- What is asked of a class to be resolved. Of the columns it matters only which properties have one. -/
def Admitted (catalog : Catalog) (type : EntityClass) : Prop :=
  match catalog.find? type with
  | some stated =>
    TableMap.unmapped stated.keys stated.columns stated.details = [] ∧
      (TableMap.autoProperties stated.keys).length ≤ 1
  | none =>
    ∃ fields, type.fields = .ok fields ∧ (type.marker.isSome = true → (autoKeys fields).length ≤ 1)

variable {catalog : Catalog} {type : EntityClass} {m : TableMap}

theorem byConvention_eq_ok :
    (∃ m, byConvention type = .ok m) ↔ ∃ fields, type.fields = .ok fields := by
  constructor
  · rintro ⟨m, h⟩
    obtain ⟨fields, hfields, -⟩ := bind_eq_ok.mp h
    exact ⟨fields, hfields⟩
  · rintro ⟨fields, hfields⟩
    refine ⟨_, bind_eq_ok.mpr ⟨fields, hfields, TableMap.checked_eq_ok.mpr ⟨?mapped, ?auto, rfl⟩⟩⟩
    case mapped =>
      refine List.filter_eq_nil_iff.mpr fun p hp => ?_
      have hfield : p ∈ fields.names := by
        rcases List.mem_append.mp hp with hkey | hdetail
        · split at hkey
          · rename_i hid
            obtain rfl : p = keyProperty := by simpa [Entries.names] using hkey
            exact (Entries.has_iff_mem_names _ _).mp hid
          · contradiction
        · simpa [Entries.names] using hdetail
      have hcolumn : Entries.has (fields.map fun field => (field.1, field.1)) p = true := by
        rw [Entries.has_iff_mem_names]
        simpa [Entries.names] using hfield
      simp [hcolumn]
    case auto =>
      split
      · exact Nat.le_refl 1
      · exact Nat.zero_le 1

theorem distinct_byConvention (h : byConvention type = .ok m) : m.columns.values.Nodup := by
  obtain ⟨fields, hfields, h⟩ := bind_eq_ok.mp h
  obtain ⟨rfl, -⟩ := TableMap.of_checked h
  have hnames : Entries.values (fields.map fun field => (field.1, field.1)) = fields.names := by
    simp [Entries.values, Entries.names]
  exact hnames ▸ EntityClass.nodup_fields hfields

theorem exists_resolve_iff : (∃ m, resolve catalog type = .ok m) ↔ Admitted catalog type := by
  unfold resolve Admitted
  cases catalog.find? type with
  | some stated => simp [StatedMapping.toTableMap, TableMap.checked_eq_ok]
  | none =>
      cases hmarker : type.marker with
      | some table => simp [byMarkers_eq_ok]
      | none => simp [byConvention_eq_ok]

theorem nodup_names_resolve (hcatalog : ∀ stated, catalog.find? type = some stated →
    stated.columns.names.Nodup) (h : resolve catalog type = .ok m) : m.columns.names.Nodup := by
  unfold resolve at h
  split at h
  · rename_i stated hstated
    obtain ⟨rfl, -⟩ := TableMap.of_checked h
    exact hcatalog stated hstated
  · split at h
    · exact (canonised_byMarkers h).described.nodup
    · exact (canonised_byConvention h).described.nodup

/-- However a class is declared and mapped: it is resolved whatever its columns are called, the column of
a property is read back as the first property that is stored in it, and this is the property itself for all
of them exactly if no two share a column. By convention no two do. -/
theorem resolve_findsFirst (hcatalog : ∀ stated, catalog.find? type = some stated →
    stated.columns.names.Nodup) :
    ((∃ m, resolve catalog type = .ok m) ↔ Admitted catalog type) ∧
      ∀ m, resolve catalog type = .ok m → m.FindsFirst ∧
        (catalog.find? type = none → type.marker = none → m.columns.values.Nodup) := by
  refine ⟨exists_resolve_iff, fun m hm => ?_⟩
  refine ⟨TableMap.findsFirst (nodup_names_resolve hcatalog hm), fun hunstated hunmarked => ?_⟩
  rw [resolve, hunstated, hunmarked] at hm
  exact distinct_byConvention hm

/-- A visit with a guest and a host. -/
def visitClass (marker : Option String) (guest host : String) : EntityClass :=
  { name := "Visit", marker
    lineage := [{ name := "Visit", defaults := [], construction := none
                  fields := [(guest, .type .int), (host, .type .int)] }] }

/-- The guest and the host are stated to have one column. -/
def visits : Catalog :=
  [("Visit",
    { type := visitClass none "guest" "host", table := "visit", keys := [], details := []
      columns := [("guest", "person"), ("host", "person")]
      fields := [("guest", .type .int), ("host", .type .int)] })]

theorem resolve_findsFirst_visits :
    ∃ m, resolve visits (visitClass none "guest" "host") = .ok m ∧ m.FindsFirst ∧
      m.column? "host" = some "person" ∧ m.property? "person" = some "guest" := by
  have hvisits : ∀ stated, visits.find? (visitClass none "guest" "host") = some stated →
      stated.columns.names.Nodup := by
    intro stated hstated
    obtain rfl := Option.some.inj hstated
    decide +kernel
  obtain ⟨m, hm⟩ : ∃ m, resolve visits (visitClass none "guest" "host") = .ok m := ⟨_, rfl⟩
  obtain ⟨hfinds, -⟩ := (resolve_findsFirst hvisits).2 m hm
  refine ⟨m, hm, hfinds, ?_⟩
  obtain rfl := Except.ok.inj hm
  decide +kernel

/-- Two fields that are the same in snake case are stored in one column. -/
theorem shared_snakeCase :
    ∃ m, resolve [] (visitClass (some "visit") "userId" "user_id") = .ok m ∧
      m.column? "user_id" = some "user_id" ∧ m.property? "user_id" = some "userId" :=
  ⟨_, rfl, by decide +kernel, by decide +kernel⟩

end Resolution

end RelationalMapper
