import RelationalMapper.Proofs.Preserved
import RelationalMapper.Proofs.Mapping.Keys

/-! # What every resolved map holds

The name of a column is written down up to three times: with its property, with its detail and with its
key. However a map is stated, in whatever order, the three agree when the class is resolved, and a class
that is not resolved is refused as misconfigured. -/

namespace RelationalMapper

/-! ## Writing under a name -/

namespace Entries

variable {β γ : Type}

theorem put_eq_self {entries : Entries β} {name : String} {b : β} (h : entries.get? name = some b) :
    entries.put name b = entries := by
  obtain ⟨before, after, hsplit, hput⟩ := exists_split h
  rw [hput, ← hsplit]

theorem names_put_congr {first : Entries β} {second : Entries γ} (h : first.names = second.names)
    (name : String) (b : β) (c : γ) : (first.put name b).names = (second.put name c).names := by
  induction first generalizing second with
  | nil =>
      obtain rfl := List.map_eq_nil_iff.mp h.symm
      rfl
  | cons e rest ih =>
      obtain ⟨n, b'⟩ := e
      cases second with
      | nil => simp [names] at h
      | cons e' rest' =>
          obtain ⟨n', c'⟩ := e'
          obtain ⟨rfl, hrest⟩ := List.cons.inj h
          by_cases hn : n = name
          · simpa [put, hn, names] using hrest
          · simpa [put, hn, names] using ih hrest

/-- What is written leaves the other names. -/
theorem has_of_has_put {entries : Entries β} {name other : String} {b : β} (hother : other ≠ name)
    (h : (entries.put name b).has other = true) : entries.has other = true :=
  ((has_put _ _ _ _).mp h).resolve_left hother

theorem has_congr {first : Entries β} {second : Entries γ} (h : first.names = second.names)
    (name : String) : first.has name = second.has name := by
  rw [Bool.eq_iff_iff, has_iff_mem_names, has_iff_mem_names, h]

end Entries

/-! ## Columns that are described -/

/-- Every column has a detail under its name, and that of a key does not admit null. -/
structure Described (keys : Entries KeyPart) (columns : Entries String)
    (details : Entries ColumnDetail) : Prop where
  nodup : columns.names.Nodup
  names_details : details.names = columns.names
  detail : ∀ p d, details.get? p = some d → d.property = p ∧ columns.get? p = some d.name
  not_null : ∀ p, keys.has p = true → ∃ d, details.get? p = some d ∧ d.nullable = false
  named : ∀ p, columns.get? p = some "" → Text.snakeCase p = ""

namespace Described

variable {keys keys' : Entries KeyPart} {columns : Entries String} {details : Entries ColumnDetail}

theorem nil : Described [] [] [] := by
  constructor <;> simp [Entries.names, Entries.has]

/-- A column enters with its detail. -/
theorem put (h : Described keys columns details) {property name : String} {d : ColumnDetail}
    (hd : d.property = property ∧ d.name = name) (hnamed : name = "" → Text.snakeCase property = "")
    (hkeys : ∀ other, other ≠ property → keys'.has other = true → keys.has other = true)
    (hnull : keys'.has property = true → d.nullable = false) :
    Described keys' (columns.put property name) (details.put property d) := by
  refine ⟨Entries.nodup_names_put h.nodup _ _, Entries.names_put_congr h.names_details _ _ _,
    fun p d' hd' => ?detail, fun p hp => ?not_null, fun p hp => ?named⟩
  case detail =>
    by_cases hother : p = property
    · subst hother
      rw [Entries.get?_put_self] at hd' ⊢
      rw [← Option.some.inj hd', hd.2]
      exact ⟨hd.1, rfl⟩
    · rw [Entries.get?_put_of_ne _ _ hother] at hd' ⊢
      exact h.detail p d' hd'
  case not_null =>
    by_cases hother : p = property
    · subst hother
      exact ⟨d, Entries.get?_put_self _ _ _, hnull hp⟩
    · rw [Entries.get?_put_of_ne _ _ hother]
      exact h.not_null p (hkeys p hother hp)
  case named =>
    by_cases hother : p = property
    · subst hother
      rw [Entries.get?_put_self] at hp
      exact hnamed (Option.some.inj hp)
    · rw [Entries.get?_put_of_ne _ _ hother] at hp
      exact h.named p hp

theorem exists_detail (h : Described keys columns details) {p column : String}
    (hp : columns.get? p = some column) : ∃ d, details.get? p = some d ∧ d.name = column := by
  have hhas : details.has p = true := by
    rw [Entries.has_congr h.names_details, Entries.has, hp]
    rfl
  obtain ⟨d, hd⟩ := (Entries.has_iff_exists _ _).mp hhas
  exact ⟨d, hd, Option.some.inj ((h.detail p d hd).2.symm.trans hp)⟩

end Described

/-! ## Drafts -/

namespace MappingDraft

theorem snakeCase_of_columnName {property : String} {column : Option String}
    (h : columnName property column = "") : Text.snakeCase property = "" := by
  have hempty : property = "" := by
    unfold columnName at h
    grind
  rw [hempty]
  rfl

/-- Each step keeps the columns described, whether it is the first on its property or comes before or
after others. -/
theorem described_apply {d : MappingDraft} (h : Described d.keys d.columns d.details) (step : Step) :
    Described (d.apply step).keys (d.apply step).columns (d.apply step).details := by
  cases step with
  | toTable table => exact h
  | hasKey property column auto =>
      exact h.put ⟨rfl, rfl⟩ snakeCase_of_columnName (fun _ => Entries.has_of_has_put) fun _ => rfl
  | map property column traits =>
      refine h.put ⟨rfl, rfl⟩ snakeCase_of_columnName (fun other hother hkey => ?_) fun hkey => ?_
      · simp only [apply, map] at hkey
        split at hkey
        · exact Entries.has_of_has_put hother hkey
        · exact hkey
      · cases hproperty : d.keys.get? property with
        | none => simp [apply, map, hproperty, Entries.has] at hkey
        | some key => simp
  | ignore property =>
      simp only [apply, ignore]
      cases hcolumn : d.columns.get? property with
      | some name =>
          obtain ⟨current, hcurrent, rfl⟩ := h.exists_detail hcolumn
          have hignored : ({ current with ignored := true } : ColumnDetail).property = property ∧
              current.name = current.name := ⟨(h.detail property current hcurrent).1, rfl⟩
          have hnamed : current.name = "" → Text.snakeCase property = "" := fun hempty =>
            h.named property (hcolumn.trans (congrArg some hempty))
          have hnull : d.keys.has property = true → current.nullable = false := by
            intro hkey
            obtain ⟨d', hd', hnull⟩ := h.not_null property hkey
            rwa [← Option.some.inj (hd'.symm.trans hcurrent)]
          have hkept := h.put hignored hnamed (fun _ _ hkey => hkey) hnull
          simpa [Entries.has, hcolumn, hcurrent, Entries.put_eq_self hcolumn] using hkept
      | none =>
          have habsent : d.details.get? property = none := by
            have hhas := Entries.has_congr h.names_details property
            simpa [Entries.has, hcolumn] using hhas
          have hnot : ¬d.keys.has property = true := by
            intro hkey
            obtain ⟨d', hd', -⟩ := h.not_null property hkey
            rw [habsent] at hd'
            contradiction
          have hnamed : property = "" → Text.snakeCase property = "" := by
            rintro rfl
            rfl
          have hnew := h.put (d := { property, name := property, ignored := true }) ⟨rfl, rfl⟩ hnamed
            (fun _ _ hkey => hkey) fun hkey => absurd hkey hnot
          simpa [Entries.has, hcolumn, habsent, Entries.get?_put_self] using hnew

theorem described (type : EntityClass) (steps : List Step) :
    Described (ofSteps type steps).keys (ofSteps type steps).columns (ofSteps type steps).details :=
  ofSteps_invariant (P := fun d => Described d.keys d.columns d.details) .nil
    (fun _ step h => described_apply h step) steps

end MappingDraft

/-! ## Markers and convention -/

namespace Resolution

theorem markedDetail_eq (property name : String) (column : Option ColumnMarker) (isKey : Bool) :
    (markedDetail property name column isKey).property = property ∧
      (markedDetail property name column isKey).name = name ∧
      (isKey = true → (markedDetail property name column isKey).nullable = false) := by
  cases column <;> cases isKey <;> simp [markedDetail]

/-- A map in the making: its columns are described, its keys are seated, its fields are the
properties with columns. -/
structure Canonised (m : TableMap) : Prop where
  seated : Seated m.keys m.columns
  described : Described m.keys m.columns m.details
  names_fields : m.fields.names = m.columns.names

theorem Canonised.addMarked {m m' : TableMap} {property : String} {hint : Hint} (hm : Canonised m)
    (hnew : m.columns.has property = false) (h : addMarked m property hint = .ok m') :
    Canonised m' := by
  have hseated := seated_addMarked hm.seated hnew h
  obtain rfl | ⟨name, isKey, keys, rfl, hnamed, hkeys⟩ := addMarked_cases h
  · exact hm
  · obtain ⟨hproperty, hname, hnull⟩ :=
      markedDetail_eq property name (Marker.column? hint.markers) isKey
    refine ⟨hseated, hm.described.put ⟨hproperty, hname⟩ hnamed (fun other hother hkey => ?_)
      fun hkey => ?_, Entries.names_put_congr hm.names_fields _ _ _⟩
    · rcases hkeys with ⟨-, rfl⟩ | ⟨-, auto, rfl⟩
      · exact hkey
      · exact Entries.has_of_has_put hother hkey
    · rcases hkeys with ⟨-, rfl⟩ | ⟨hisKey, -⟩
      · simp [Entries.has, hm.seated.get?_eq_none hnew] at hkey
      · exact hnull hisKey

theorem canonised_byMarkers {type : EntityClass} {table : String} {m : TableMap}
    (h : byMarkers type table = .ok m) : Canonised m := by
  obtain ⟨fields, hfields, h⟩ := bind_eq_ok.mp h
  obtain ⟨grown, hgrown, h⟩ := bind_eq_ok.mp h
  obtain ⟨rfl, -⟩ := TableMap.of_checked h
  have hstart : Canonised { type, table } := ⟨⟨List.nodup_nil, by simp⟩, .nil, rfl⟩
  exact addAllMarked_invariant (fun _ _ _ _ hm => hm.addMarked) (EntityClass.nodup_fields hfields)
    hstart (fun _ _ => rfl) hgrown

/-- By convention a column has the name of its property, and only the key does not admit null. -/
theorem described_byConvention {fields : Entries Hint} (hfields : fields.names.Nodup)
    {keys : Entries KeyPart} (hkeys : ∀ p, keys.has p = true → p = keyProperty ∧ fields.has p = true) :
    Described keys (fields.map fun (property, _) => (property, property))
      (fields.map fun (property, _) =>
        (property, { property, name := property, nullable := property ≠ keyProperty })) := by
  have hcolumns := Entries.get?_map (fun property (_ : Hint) => property) fields
  have hdetails := Entries.get?_map (fun property (_ : Hint) =>
    ({ property, name := property, nullable := property ≠ keyProperty } : ColumnDetail)) fields
  constructor
  case nodup => rwa [Entries.names_map fun property _ => property]
  case names_details => simp [Entries.names]
  case detail =>
    intro p d hd
    rw [hdetails] at hd
    obtain ⟨hint, hhint, rfl⟩ := Option.map_eq_some_iff.mp hd
    rw [hcolumns, hhint]
    exact ⟨rfl, rfl⟩
  case not_null =>
    intro p hp
    obtain ⟨rfl, hfield⟩ := hkeys p hp
    obtain ⟨hint, hhint⟩ := (Entries.has_iff_exists _ _).mp hfield
    exact ⟨_, (hdetails _).trans (congrArg _ hhint), by simp⟩
  case named =>
    intro p hp
    rw [hcolumns] at hp
    obtain ⟨hint, hhint, rfl⟩ := Option.map_eq_some_iff.mp hp
    rfl

theorem canonised_byConvention {type : EntityClass} {m : TableMap}
    (h : byConvention type = .ok m) : Canonised m := by
  have hseated := (TableMap.keyed_byConvention h).seated
  obtain ⟨fields, hfields, h⟩ := bind_eq_ok.mp h
  obtain ⟨rfl, -⟩ := TableMap.of_checked h
  have hkeys : ∀ p, Entries.has (if fields.has keyProperty then
      [(keyProperty, (⟨keyProperty, keyProperty, true⟩ : KeyPart))] else []) p = true →
        p = keyProperty ∧ fields.has p = true := by
    intro p hp
    rw [Entries.has_iff_mem_names] at hp
    split at hp
    · rename_i hid
      obtain rfl : p = keyProperty := by simpa [Entries.names] using hp
      exact ⟨rfl, hid⟩
    · simp [Entries.names] at hp
  exact ⟨hseated, described_byConvention (EntityClass.nodup_fields hfields) hkeys,
    (Entries.names_map (fun property _ => property) fields).symm⟩

/-! ## What refuses a class -/

/-- A class is refused as misconfigured. -/
def Misconfigured (e : Failure) : Prop := ∃ cause, e = .misconfiguration cause

theorem misconfigured_fields (c : EntityClass) : FailsOnly Misconfigured c.fields := by
  refine FailsOnly.bind (failsOnly_mapM fun ⟨name, hint⟩ _ => ?_) fun _ => failsOnly_ok _
  simp only
  split
  · exact failsOnly_ok _
  · exact failsOnly_error ⟨_, rfl⟩

theorem misconfigured_checked (m : TableMap) : FailsOnly Misconfigured m.checked := by
  unfold TableMap.checked
  simp only
  split
  · exact failsOnly_error ⟨_, rfl⟩
  · split
    · exact failsOnly_error ⟨_, rfl⟩
    · exact failsOnly_ok _

theorem misconfigured_addMarked (m : TableMap) (property : String) (hint : Hint) :
    FailsOnly Misconfigured (addMarked m property hint) := by
  unfold addMarked
  simp only
  split
  · exact failsOnly_ok _
  · split
    · exact failsOnly_ok _
    · split
      · exact failsOnly_error ⟨_, rfl⟩
      · exact failsOnly_ok _
    · exact failsOnly_ok _

theorem misconfigured_resolve (catalog : Catalog) (type : EntityClass) :
    FailsOnly Misconfigured (resolve catalog type) := by
  unfold resolve
  split
  · exact misconfigured_checked _
  · split
    · refine (misconfigured_fields type).bind fun fields => FailsOnly.bind ?_ misconfigured_checked
      exact failsOnly_foldlM (fun m (property, hint) => misconfigured_addMarked m property hint) _ _
    · exact (misconfigured_fields type).bind fun fields => misconfigured_checked _

end Resolution

/-! ## Resolved maps -/

namespace TableMap

/-- The properties with a column, with a field and with a detail are the same, and the keys are among
them; what stands under a property in one place agrees with what stands under it in the others. -/
structure Canonical (m : TableMap) : Prop where
  nodup : m.columns.names.Nodup
  names_fields : m.fields.names = m.columns.names
  names_details : m.details.names = m.columns.names
  names_keys : ∀ p, p ∈ m.keys.names → p ∈ m.columns.names
  detail : ∀ p d, m.details.get? p = some d → d.property = p ∧ m.columns.get? p = some d.name
  key : ∀ p part, m.keys.get? p = some part →
    part.property = p ∧ m.columns.get? p = some part.column ∧
      ∃ d, m.details.get? p = some d ∧ d.nullable = false
  single_auto : (autoProperties m.keys).length ≤ 1

theorem Resolved.canonised {m : TableMap} (h : m.Resolved) : Resolution.Canonised m := by
  have hseated := h.keyed.seated
  cases h.origin with
  | @stated type steps _ hsteps h =>
      obtain ⟨fields, hfields, rfl⟩ := MappingDraft.of_finished hsteps
      obtain ⟨rfl, -⟩ := of_checked h
      exact ⟨hseated, MappingDraft.described type steps, StatedMapping.names_fieldsOf hfields⟩
  | marked h => exact Resolution.canonised_byMarkers h
  | conventional h => exact Resolution.canonised_byConvention h

theorem Resolved.canonical {m : TableMap} (h : m.Resolved) : m.Canonical := by
  obtain ⟨hseated, hdescribed, hfields⟩ := h.canonised
  refine ⟨hdescribed.nodup, hfields, hdescribed.names_details, fun p hp => ?_, hdescribed.detail,
    fun p part hpart => ?_, h.keyed.single_auto⟩
  · obtain ⟨part, hpart⟩ := (Entries.has_iff_exists _ _).mp ((Entries.has_iff_mem_names _ _).mpr hp)
    rw [← Entries.has_iff_mem_names, Entries.has, (hseated.column p part hpart).2]
    rfl
  · obtain ⟨hproperty, hcolumn⟩ := hseated.column p part hpart
    exact ⟨hproperty, hcolumn,
      hdescribed.not_null p ((Entries.has_iff_exists _ _).mpr ⟨part, hpart⟩)⟩

end TableMap

/-- Whatever classes derive from and however mappings are stated: a class is refused as misconfigured,
or its map is canonical. -/
theorem Resolution.resolve_canonical {catalog : Catalog} (hcatalog : catalog.Drafted)
    (type : EntityClass) :
    (∃ cause, resolve catalog type = .error (.misconfiguration cause)) ∨
      ∃ m, resolve catalog type = .ok m ∧ m.Canonical := by
  cases h : resolve catalog type with
  | error e =>
      obtain ⟨cause, rfl⟩ := misconfigured_resolve catalog type e h
      exact .inl ⟨cause, rfl⟩
  | ok m => exact .inr ⟨m, rfl, TableMap.Resolved.canonical ⟨catalog, type, hcatalog, h⟩⟩

/-- A class with a number and a text. -/
def memoClass : EntityClass :=
  { name := "Memo", marker := none
    lineage := [{ name := "Memo", defaults := [], construction := none
                  fields := [("number", .type .int), ("text", .type .text)] }] }

/-- The number is mapped, made a key and mapped again; the text is ignored before it is mapped. -/
def memoSteps : List MappingDraft.Step :=
  [.map "number" none {}, .hasKey "number" (some "no") true, .ignore "text",
    .map "number" (some "id") {}, .map "text" (some "body") {}, .ignore "text"]

def memos : Catalog :=
  [("Memo",
    { type := memoClass, table := "memo"
      keys := [("number", ⟨"number", "id", true⟩)]
      columns := [("number", "id"), ("text", "body")]
      details := [("number", { property := "number", name := "id", nullable := false }),
        ("text", { property := "text", name := "body", ignored := true })]
      fields := [("number", .type .int), ("text", .type .text)] })]

theorem drafted_memos : memos.Drafted := by
  rintro name stated hstated
  obtain ⟨-, rfl⟩ := Prod.mk.inj (List.mem_singleton.mp hstated)
  exact ⟨memoClass, memoSteps, rfl⟩

theorem Resolution.resolve_canonical_memos :
    ∃ m, resolve memos memoClass = .ok m ∧ m.isIgnored "text" = true ∧ m.Canonical := by
  rcases resolve_canonical drafted_memos memoClass with ⟨cause, hcause⟩ | ⟨m, hm, hcanonical⟩
  · contradiction
  · obtain rfl := Except.ok.inj hm
    exact ⟨_, hm, rfl, hcanonical⟩

end RelationalMapper
