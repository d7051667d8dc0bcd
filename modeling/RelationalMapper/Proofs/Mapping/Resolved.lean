import RelationalMapper.Mapping.Resolution
import RelationalMapper.Proofs.Action

/-! # Table maps that are resolved

Whether a map comes from a stated mapping, from markers or from the convention: every property with a
column is a field, and every key has a column and stands under its own property. -/

namespace RelationalMapper

/-! ## Entries -/

namespace Entries

variable {β γ : Type}

theorem has_iff_mem_names (entries : Entries β) (name : String) :
    entries.has name = true ↔ name ∈ entries.names := by
  unfold has
  induction entries with
  | nil => simp [names]
  | cons e rest ih =>
      obtain ⟨n, b⟩ := e
      by_cases h : n = name
      · simp [get?, names, h]
      · have h' : ¬name = n := fun he => h he.symm
        simpa [get?, names, h, h'] using ih

theorem has_iff_exists (entries : Entries β) (name : String) :
    entries.has name = true ↔ ∃ b, entries.get? name = some b := Option.isSome_iff_exists

theorem has_put (entries : Entries β) (name other : String) (b : β) :
    (entries.put name b).has other = true ↔ other = name ∨ entries.has other = true := by
  unfold has
  by_cases h : other = name
  · simp [h, get?_put_self]
  · simp [h, get?_put_of_ne _ _ h]

theorem mem_put {entries : Entries β} {name : String} {b : β} {e : String × β}
    (h : e ∈ entries.put name b) : e = (name, b) ∨ e ∈ entries := by
  induction entries with
  | nil => exact .inl (by simpa [put] using h)
  | cons first rest ih =>
      obtain ⟨n, b'⟩ := first
      rw [put] at h
      split at h
      · rename_i hn
        rcases List.mem_cons.mp h with rfl | h
        · exact .inl (by rw [hn])
        · exact .inr (List.mem_cons_of_mem _ h)
      · rcases List.mem_cons.mp h with rfl | h
        · exact .inr List.mem_cons_self
        · rcases ih h with h | h
          · exact .inl h
          · exact .inr (List.mem_cons_of_mem _ h)

theorem get?_of_not_mem {entries : Entries β} {name : String} (h : name ∉ entries.names) :
    entries.get? name = none :=
  Option.not_isSome_iff_eq_none.mp (mt (has_iff_mem_names entries name).mp h)

/-- What is written under a name takes the place of what stands there. -/
theorem exists_split {entries : Entries β} {name : String} {b : β} (h : entries.get? name = some b) :
    ∃ before after, entries = before ++ (name, b) :: after ∧
      ∀ b', entries.put name b' = before ++ (name, b') :: after := by
  induction entries with
  | nil => contradiction
  | cons entry rest ih =>
      obtain ⟨n, first⟩ := entry
      rw [get?] at h
      by_cases hn : n = name
      · rw [if_pos hn] at h
        obtain rfl := Option.some.inj h
        subst hn
        exact ⟨[], rest, rfl, fun b' => if_pos rfl⟩
      · rw [if_neg hn] at h
        obtain ⟨before, after, hsplit, hput⟩ := ih h
        refine ⟨(n, first) :: before, after, by rw [hsplit]; rfl, fun b' => ?_⟩
        rw [put, if_neg hn, hput]
        rfl

theorem mem_of_get? {entries : Entries β} {name : String} {b : β}
    (h : entries.get? name = some b) : (name, b) ∈ entries := by
  obtain ⟨before, after, hsplit, -⟩ := exists_split h
  rw [hsplit]
  exact List.mem_append_right before List.mem_cons_self

end Entries

/-! ## Where maps come from -/

/-- Every mapping of the catalogue was finished by its draft. -/
def Catalog.Drafted (catalog : Catalog) : Prop :=
  ∀ name stated, (name, stated) ∈ catalog →
    ∃ type steps, (MappingDraft.ofSteps type steps).finished = .ok stated

namespace TableMap

/-- The map of a class of an application. -/
def Resolved (m : TableMap) : Prop :=
  ∃ (catalog : Catalog) (type : EntityClass), catalog.Drafted ∧
    Resolution.resolve catalog type = .ok m

/-- What fits together in a map. -/
structure Coherent (m : TableMap) : Prop where
  field_of_column : ∀ p, m.columns.has p = true → ∃ hint, m.fields.get? p = some hint
  column_of_key : ∀ name part, (name, part) ∈ m.keys → m.columns.has name = true
  property_of_key : ∀ name part, (name, part) ∈ m.keys → part.property = name

theorem unmapped_eq_nil {keys : Entries KeyPart} {columns : Entries String}
    {details : Entries ColumnDetail} (h : unmapped keys columns details = []) {name : String}
    {part : KeyPart} (hkey : (name, part) ∈ keys) : columns.has name = true := by
  have hname : name ∈ keys.names ++ details.names :=
    List.mem_append_left _ (List.mem_map.mpr ⟨_, hkey, rfl⟩)
  have := List.filter_eq_nil_iff.mp h name hname
  simpa using this

/-- A map passes its check as it is if every key and detail has a column and at most one key is
automatic. -/
theorem checked_eq_ok {m m' : TableMap} :
    m.checked = .ok m' ↔
      unmapped m.keys m.columns m.details = [] ∧ (autoProperties m.keys).length ≤ 1 ∧ m' = m := by
  unfold checked
  by_cases hmissing : unmapped m.keys m.columns m.details = []
  · by_cases hautos : 1 < (autoProperties m.keys).length
    · simp [hmissing, hautos, Nat.not_le.mpr hautos]
    · simp [hmissing, hautos, Nat.not_lt.mp hautos, eq_comm (b := m')]
  · simp [hmissing]

/-- When a map has passed its check, every key has a column. -/
theorem of_checked {m m' : TableMap} (h : m.checked = .ok m') :
    m' = m ∧ ∀ name part, (name, part) ∈ m.keys → m.columns.has name = true := by
  obtain ⟨hmissing, -, rfl⟩ := checked_eq_ok.mp h
  exact ⟨rfl, fun name part hkey => unmapped_eq_nil hmissing hkey⟩

end TableMap

/-! ## Stated mappings -/

theorem StatedMapping.names_fieldsOf {type : EntityClass} {columns : Entries String}
    {fields : Entries Hint} (h : fieldsOf type columns = .ok fields) :
    fields.names = columns.names := by
  obtain ⟨declared, -, hmap⟩ := bind_eq_ok.mp h
  clear h
  generalize columns.names = properties at hmap ⊢
  induction properties generalizing fields with
  | nil =>
      rw [List.mapM_nil] at hmap
      rw [← Except.ok.inj hmap]
      rfl
  | cons p rest ih =>
      rw [List.mapM_cons] at hmap
      obtain ⟨entry, hentry, hmap⟩ := bind_eq_ok.mp hmap
      obtain ⟨more, hmore, hmap⟩ := bind_eq_ok.mp hmap
      rw [← Except.ok.inj hmap]
      split at hentry
      · rw [← Except.ok.inj hentry]
        exact congrArg (p :: ·) (ih hmore)
      · contradiction

/-- What holds of a fresh draft and what every step preserves, holds of every draft. -/
theorem MappingDraft.ofSteps_invariant {P : MappingDraft → Prop} {type : EntityClass}
    (hstart : P (start type)) (hstep : ∀ d step, P d → P (d.apply step)) (steps : List Step) :
    P (ofSteps type steps) := by
  have hrun : ∀ d : MappingDraft, P d → P (steps.foldl apply d) := by
    induction steps with
    | nil => exact fun d hd => hd
    | cons step steps ih => exact fun d hd => ih _ (hstep d step hd)
  exact hrun _ hstart

theorem MappingDraft.property_of_key (type : EntityClass) (steps : List Step) :
    ∀ name part, (name, part) ∈ (ofSteps type steps).keys → part.property = name := by
  refine ofSteps_invariant (P := fun d => ∀ name part, (name, part) ∈ d.keys →
    part.property = name) (by simp [start]) (fun d step hd name part h => ?_) steps
  cases step with
  | toTable table => exact hd name part h
  | ignore property => exact hd name part h
  | hasKey property column auto =>
      rcases Entries.mem_put h with h | h
      · obtain ⟨rfl, rfl⟩ := Prod.mk.inj h
        rfl
      · exact hd name part h
  | map property column traits =>
      simp only [apply, map] at h
      split at h
      · rcases Entries.mem_put h with h | h
        · obtain ⟨rfl, rfl⟩ := Prod.mk.inj h
          rfl
        · exact hd name part h
      · exact hd name part h

/-- A draft that is finished is stated as it is, with the fields of its columns. -/
theorem MappingDraft.of_finished {d : MappingDraft} {stated : StatedMapping}
    (h : d.finished = .ok stated) :
    ∃ fields, StatedMapping.fieldsOf d.type d.columns = .ok fields ∧
      stated = { type := d.type, table := d.table, keys := d.keys, columns := d.columns
                 details := d.details, fields } := by
  obtain ⟨fields, hfields, h⟩ := bind_eq_ok.mp h
  refine ⟨fields, hfields, ?_⟩
  split at h
  · contradiction
  · simp only at h
    split at h
    · contradiction
    · exact (Except.ok.inj h).symm

theorem StatedMapping.coherent {type : EntityClass} {steps : List MappingDraft.Step}
    {stated : StatedMapping} {m : TableMap}
    (h : (MappingDraft.ofSteps type steps).finished = .ok stated)
    (hm : stated.toTableMap = .ok m) : m.Coherent := by
  obtain ⟨fields, hfields, rfl⟩ := MappingDraft.of_finished h
  obtain ⟨rfl, hcolumn⟩ := TableMap.of_checked hm
  refine ⟨fun p hp => ?_, hcolumn, MappingDraft.property_of_key type steps⟩
  rw [← Entries.has_iff_exists, Entries.has_iff_mem_names, names_fieldsOf hfields,
    ← Entries.has_iff_mem_names]
  exact hp

/-! ## Markers and convention -/

namespace Resolution

/-- A map in the making: its columns belong to fields, its keys stand under their properties. -/
structure Growing (m : TableMap) : Prop where
  field_of_column : ∀ p, m.columns.has p = true → m.fields.has p = true
  property_of_key : ∀ name part, (name, part) ∈ m.keys → part.property = name

theorem Growing.put {m : TableMap} (hm : Growing m) (property name : String) (hint : Hint)
    (details : Entries ColumnDetail) {keys : Entries KeyPart}
    (hkeys : ∀ name part, (name, part) ∈ keys → part.property = name) :
    Growing { m with
      columns := m.columns.put property name, fields := m.fields.put property hint
      details, keys } := by
  refine ⟨fun p hp => ?_, hkeys⟩
  rw [Entries.has_put] at hp ⊢
  exact hp.imp_right (hm.field_of_column p)

/-- Only a property that is empty in snake case gets a column without a name. -/
theorem snakeCase_of_columnName {property : String} {column : Option ColumnMarker}
    {key : Option KeyMarker} (h : columnName property column key = "") :
    Text.snakeCase property = "" := by
  have hnamed : ∀ {o : Option String} {name : String}, o.filter (· ≠ "") = some name → name ≠ "" :=
    fun h => by simpa using (Option.filter_eq_some_iff.mp h).2
  unfold columnName at h
  simp only at h
  generalize hchosen : Option.or _ _ = chosen at h
  cases chosen with
  | none => exact h
  | some name =>
      rcases Option.or_eq_some_iff.mp hchosen with hkey | ⟨-, hcolumn⟩
      · exact absurd h (hnamed hkey)
      · exact absurd h (hnamed hcolumn)

/-- A marked field changes nothing, or writes its column, its hint and its detail, and with them its
key, if it is one. -/
theorem addMarked_cases {m m' : TableMap} {property : String} {hint : Hint}
    (h : addMarked m property hint = .ok m') :
    m' = m ∨ ∃ (name : String) (isKey : Bool) (keys : Entries KeyPart),
      m' = { m with
        columns := m.columns.put property name, fields := m.fields.put property hint
        details := m.details.put property
          (markedDetail property name (Marker.column? hint.markers) isKey)
        keys } ∧
      (name = "" → Text.snakeCase property = "") ∧
      ((isKey = false ∧ keys = m.keys) ∨
        (isKey = true ∧ ∃ auto, keys = m.keys.put property ⟨property, name, auto⟩)) := by
  unfold addMarked at h
  simp only at h
  split at h
  · exact .inl (Except.ok.inj h).symm
  · have hname := @snakeCase_of_columnName property
    split at h
    · rename_i hkey
      exact .inr ⟨_, false, m.keys, by rw [← Except.ok.inj h, hkey]; rfl, hname, .inl ⟨rfl, rfl⟩⟩
    · rename_i hkey _
      split at h
      · contradiction
      · exact .inr ⟨_, true, _, by rw [← Except.ok.inj h, hkey]; rfl, hname, .inr ⟨rfl, _, rfl⟩⟩
    · rename_i hkey _
      exact .inr ⟨_, true, _, by rw [← Except.ok.inj h, hkey]; rfl, hname, .inr ⟨rfl, _, rfl⟩⟩

theorem Growing.addMarked {m m' : TableMap} {property : String} {hint : Hint} (hm : Growing m)
    (h : addMarked m property hint = .ok m') : Growing m' := by
  obtain rfl | ⟨name, isKey, keys, rfl, -, hkeys⟩ := addMarked_cases h
  · exact hm
  · refine hm.put _ _ _ _ fun n part hmem => ?_
    rcases hkeys with ⟨-, rfl⟩ | ⟨-, auto, rfl⟩
    · exact hm.property_of_key n part hmem
    · rcases Entries.mem_put hmem with he | hmem
      · obtain ⟨rfl, rfl⟩ := Prod.mk.inj he
        rfl
      · exact hm.property_of_key n part hmem

theorem Growing.coherent {m m' : TableMap} (hm : Growing m) (h : m.checked = .ok m') :
    m'.Coherent := by
  obtain ⟨rfl, hcolumn⟩ := TableMap.of_checked h
  exact ⟨fun p hp => (Entries.has_iff_exists _ p).mp (hm.field_of_column p hp), hcolumn,
    hm.property_of_key⟩

theorem coherent_byMarkers {type : EntityClass} {table : String} {m : TableMap}
    (h : byMarkers type table = .ok m) : m.Coherent := by
  obtain ⟨fields, -, h⟩ := bind_eq_ok.mp h
  obtain ⟨grown, hgrown, h⟩ := bind_eq_ok.mp h
  have hstart : Growing { type, table } := ⟨by simp [Entries.has], by simp⟩
  have hgrowing : Growing grown :=
    foldlM_invariant (fun s x s' hs hx => hs.addMarked hx) hstart hgrown
  exact hgrowing.coherent h

theorem coherent_byConvention {type : EntityClass} {m : TableMap}
    (h : byConvention type = .ok m) : m.Coherent := by
  obtain ⟨fields, -, h⟩ := bind_eq_ok.mp h
  refine Growing.coherent ⟨fun p hp => ?_, fun name part hkey => ?_⟩ h
  · rw [Entries.has_iff_mem_names] at hp ⊢
    simpa [Entries.names] using hp
  · split at hkey
    · obtain ⟨rfl, rfl⟩ := Prod.mk.inj (List.mem_singleton.mp hkey)
      rfl
    · simp at hkey

end Resolution

/-! ## Resolved maps -/

/-- The ways in which a map is resolved. -/
inductive TableMap.Origin (m : TableMap) : Prop where
  | stated {type : EntityClass} {steps : List MappingDraft.Step} {mapping : StatedMapping}
      (hsteps : (MappingDraft.ofSteps type steps).finished = .ok mapping)
      (h : mapping.toTableMap = .ok m)
  | marked {type : EntityClass} {table : String} (h : Resolution.byMarkers type table = .ok m)
  | conventional {type : EntityClass} (h : Resolution.byConvention type = .ok m)

theorem TableMap.Resolved.origin {m : TableMap} (h : m.Resolved) : m.Origin := by
  obtain ⟨catalog, type, hcatalog, h⟩ := h
  unfold Resolution.resolve at h
  split at h
  · rename_i mapping hmapping
    obtain ⟨type', steps, hsteps⟩ := hcatalog _ _ (Entries.mem_of_get? hmapping)
    exact .stated hsteps h
  · split at h
    · exact .marked h
    · exact .conventional h

theorem TableMap.Resolved.coherent {m : TableMap} (h : m.Resolved) : m.Coherent := by
  cases h.origin with
  | stated hsteps h => exact StatedMapping.coherent hsteps h
  | marked h => exact Resolution.coherent_byMarkers h
  | conventional h => exact Resolution.coherent_byConvention h

namespace TableMap

variable {m : TableMap}

theorem mapped_of_mem_insertProperties {e : String × String} (h : e ∈ m.insertProperties) :
    e ∈ m.mapped := (List.mem_filter.mp h).1

theorem mapped_of_mem_updateProperties {e : String × String} (h : e ∈ m.updateProperties) :
    e ∈ m.mapped := (List.mem_filter.mp h).1

namespace Coherent

/-- A key is a field. -/
theorem field_of_key (hm : m.Coherent) {part : KeyPart} (h : part ∈ m.keys.values) :
    ∃ hint, m.fields.get? part.property = some hint := by
  obtain ⟨⟨name, part'⟩, hkey, rfl⟩ := List.mem_map.mp h
  rw [hm.property_of_key name part' hkey]
  exact hm.field_of_column name (hm.column_of_key name part' hkey)

theorem field_of_mapped (hm : m.Coherent) {entry : String × String} (h : entry ∈ m.mapped) :
    ∃ hint, m.fields.get? entry.1 = some hint := by
  have hcolumn : entry ∈ m.columns := (List.mem_filter.mp h).1
  exact hm.field_of_column entry.1
    ((Entries.has_iff_mem_names _ _).mpr (List.mem_map.mpr ⟨entry, hcolumn, rfl⟩))

/-- A property that an insertion binds is a field. -/
theorem field_of_insertion (hm : m.Coherent) {p : String} (h : p ∈ m.insertProperties.names) :
    ∃ hint, m.fields.get? p = some hint := by
  obtain ⟨entry, hentry, rfl⟩ := List.mem_map.mp h
  exact hm.field_of_mapped (mapped_of_mem_insertProperties hentry)

/-- A property that an update assigns is a field. -/
theorem field_of_update (hm : m.Coherent) {p : String} (h : p ∈ m.updateProperties.names) :
    ∃ hint, m.fields.get? p = some hint := by
  obtain ⟨entry, hentry, rfl⟩ := List.mem_map.mp h
  exact hm.field_of_mapped (mapped_of_mem_updateProperties hentry)

end Coherent

end TableMap

end RelationalMapper
