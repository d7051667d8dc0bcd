import Mathlib.Data.List.Nodup
import RelationalMapper.Proofs.Mapping.Resolved

/-! # Keys and columns of resolved maps

A draft, a marked field and the convention each write the column of a key down twice: with the key and
with its property. In every map that is resolved the two agree, and at most one key is automatic. -/

namespace RelationalMapper

/-! ## Entries with distinct names -/

namespace Entries

variable {β : Type}

theorem nodup_names_put {entries : Entries β} (h : entries.names.Nodup) (name : String) (b : β) :
    (entries.put name b).names.Nodup := by
  induction entries with
  | nil => simp [put, names]
  | cons e rest ih =>
      obtain ⟨n, b'⟩ := e
      obtain ⟨hn, hrest⟩ := List.nodup_cons.mp h
      by_cases hname : n = name
      · simpa [put, hname, names] using h
      · have hnot : n ∉ (put rest name b).names := by
          intro hmem
          obtain ⟨e, he, rfl⟩ := List.mem_map.mp hmem
          rcases mem_put he with rfl | he
          · exact hname rfl
          · exact hn (List.mem_map.mpr ⟨e, he, rfl⟩)
        rw [put, if_neg hname]
        exact List.nodup_cons.mpr ⟨hnot, ih hrest⟩

theorem get?_of_mem {entries : Entries β} (h : entries.names.Nodup) {name : String} {b : β}
    (hmem : (name, b) ∈ entries) : entries.get? name = some b := by
  induction entries with
  | nil => contradiction
  | cons e rest ih =>
      obtain ⟨n, b'⟩ := e
      obtain ⟨hn, hrest⟩ := List.nodup_cons.mp h
      rcases List.mem_cons.mp hmem with heq | hmem
      · obtain ⟨rfl, rfl⟩ := Prod.mk.inj heq
        exact if_pos rfl
      · have hne : n ≠ name := by
          rintro rfl
          exact hn (List.mem_map.mpr ⟨_, hmem, rfl⟩)
        rw [get?, if_neg hne]
        exact ih hrest hmem

theorem names_map {γ : Type} (f : String → β → γ) (entries : Entries β) :
    names (entries.map fun (n, b) => (n, f n b)) = names entries := by
  simp [names]

theorem get?_map {γ : Type} (f : String → β → γ) (entries : Entries β) (name : String) :
    get? (entries.map fun (n, b) => (n, f n b)) name = (entries.get? name).map (f name) := by
  induction entries with
  | nil => rfl
  | cons e rest ih =>
      obtain ⟨n, b⟩ := e
      rw [List.map_cons, get?, get?]
      split
      · rename_i hn
        rw [hn, Option.map_some]
      · exact ih

theorem nodup_names_ofPairs (pairs : List (String × β)) : (ofPairs pairs).names.Nodup := by
  have hfold : ∀ entries : Entries β, entries.names.Nodup →
      (pairs.foldl (fun entries (name, value) => put entries name value) entries).names.Nodup := by
    induction pairs with
    | nil => exact fun _ h => h
    | cons pair pairs ih => exact fun entries h => ih _ (nodup_names_put h pair.1 pair.2)
  exact hfold [] List.nodup_nil

end Entries

theorem EntityClass.nodup_fields {c : EntityClass} {fields : Entries Hint}
    (h : c.fields = .ok fields) : fields.names.Nodup := by
  obtain ⟨pairs, -, h⟩ := bind_eq_ok.mp h
  obtain rfl := Except.ok.inj h
  exact (Entries.nodup_names_ofPairs pairs).sublist (List.filter_sublist.map Prod.fst)

/-! ## Keys that stand in their columns -/

/-- Each key stands under its own name, in the column of its property. -/
structure Seated (keys : Entries KeyPart) (columns : Entries String) : Prop where
  nodup : keys.names.Nodup
  column : ∀ name part, keys.get? name = some part →
    part.property = name ∧ columns.get? name = some part.column

namespace Seated

variable {keys : Entries KeyPart} {columns : Entries String}

/-- A key enters with its column. -/
theorem put (h : Seated keys columns) (property name : String) (auto : Bool) :
    Seated (keys.put property ⟨property, name, auto⟩) (columns.put property name) := by
  refine ⟨Entries.nodup_names_put h.nodup _ _, fun other part hpart => ?_⟩
  by_cases hother : other = property
  · subst hother
    rw [Entries.get?_put_self] at hpart
    obtain rfl := Option.some.inj hpart
    exact ⟨rfl, Entries.get?_put_self _ _ _⟩
  · rw [Entries.get?_put_of_ne _ _ hother] at hpart
    rw [Entries.get?_put_of_ne _ _ hother]
    exact h.column other part hpart

/-- The column of a property that is no key does not matter. -/
theorem put_column (h : Seated keys columns) {property : String}
    (hproperty : keys.get? property = none) (name : String) :
    Seated keys (columns.put property name) := by
  refine ⟨h.nodup, fun other part hpart => ?_⟩
  have hother : other ≠ property := by
    rintro rfl
    rw [hproperty] at hpart
    contradiction
  rw [Entries.get?_put_of_ne _ _ hother]
  exact h.column other part hpart

/-- A property without a column is no key. -/
theorem get?_eq_none (h : Seated keys columns) {property : String}
    (hproperty : columns.has property = false) : keys.get? property = none := by
  cases hkey : keys.get? property with
  | none => rfl
  | some part => simp [Entries.has, (h.column property part hkey).2] at hproperty

end Seated

theorem MappingDraft.seated (type : EntityClass) (steps : List Step) :
    Seated (ofSteps type steps).keys (ofSteps type steps).columns := by
  refine ofSteps_invariant (P := fun d => Seated d.keys d.columns) ⟨List.nodup_nil, by simp [start]⟩
    (fun d step hd => ?_) steps
  cases step with
  | toTable table => exact hd
  | hasKey property column auto => exact hd.put property _ auto
  | map property column traits =>
      simp only [apply, map]
      cases hkey : d.keys.get? property with
      | none => exact hd.put_column hkey _
      | some key => exact hd.put property _ key.auto
  | ignore property =>
      simp only [apply, ignore]
      split
      · exact hd
      · rename_i hcolumn
        exact hd.put_column (hd.get?_eq_none (by simpa using hcolumn)) property

namespace Resolution

/-- A field gives no other property a column. -/
theorem has_of_addMarked {m m' : TableMap} {property other : String} {hint : Hint}
    (h : addMarked m property hint = .ok m') (hother : other ≠ property) :
    m'.columns.has other = m.columns.has other := by
  obtain rfl | ⟨name, isKey, keys, rfl, -, -⟩ := addMarked_cases h
  · rfl
  · simp only [Entries.has, Entries.get?_put_of_ne _ _ hother]

/-- What every field preserves whose property has no column yet, all of them preserve together. -/
theorem addAllMarked_invariant {P : TableMap → Prop}
    (hstep : ∀ m m' property hint, P m → m.columns.has property = false →
      addMarked m property hint = .ok m' → P m')
    {fields : Entries Hint} (hfields : fields.names.Nodup) {m m' : TableMap} (hm : P m)
    (hnew : ∀ p ∈ fields.names, m.columns.has p = false)
    (h : fields.foldlM (fun m (property, hint) => addMarked m property hint) m = .ok m') :
    P m' := by
  induction fields generalizing m with
  | nil =>
      obtain rfl := Except.ok.inj h
      exact hm
  | cons field fields ih =>
      obtain ⟨hfield, hrest⟩ := List.nodup_cons.mp hfields
      rw [List.foldlM_cons] at h
      obtain ⟨added, hadded, h⟩ := bind_eq_ok.mp h
      have hP := hstep m added _ _ hm (hnew _ List.mem_cons_self) hadded
      refine ih hrest hP (fun p hp => ?_) h
      have hother : p ≠ field.1 := by
        rintro rfl
        exact hfield hp
      rw [has_of_addMarked hadded hother]
      exact hnew p (List.mem_cons_of_mem _ hp)

/-- A field whose property has no column yet takes its seat. -/
theorem seated_addMarked {m m' : TableMap} {property : String} {hint : Hint}
    (hm : Seated m.keys m.columns) (hnew : m.columns.has property = false)
    (h : addMarked m property hint = .ok m') : Seated m'.keys m'.columns := by
  obtain rfl | ⟨name, isKey, keys, rfl, -, hkeys⟩ := addMarked_cases h
  · exact hm
  · rcases hkeys with ⟨-, rfl⟩ | ⟨-, auto, rfl⟩
    · exact hm.put_column (hm.get?_eq_none hnew) _
    · exact hm.put property _ _

end Resolution

/-! ## Resolved maps -/

namespace TableMap

/-- The keys of a map and its columns agree. -/
structure Keyed (m : TableMap) : Prop where
  seated : Seated m.keys m.columns
  single_auto : (autoProperties m.keys).length ≤ 1

theorem keyed_of_checked {m m' : TableMap} (hm : Seated m.keys m.columns)
    (h : m.checked = .ok m') : m'.Keyed := by
  obtain ⟨-, hautos, rfl⟩ := checked_eq_ok.mp h
  exact ⟨hm, hautos⟩

theorem keyed_byMarkers {type : EntityClass} {table : String} {m : TableMap}
    (h : Resolution.byMarkers type table = .ok m) : m.Keyed := by
  obtain ⟨fields, hfields, h⟩ := bind_eq_ok.mp h
  obtain ⟨grown, hgrown, h⟩ := bind_eq_ok.mp h
  have hstart : Seated ({ type, table } : TableMap).keys ({ type, table } : TableMap).columns :=
    ⟨List.nodup_nil, by simp⟩
  have hseated : Seated grown.keys grown.columns :=
    Resolution.addAllMarked_invariant (P := fun m => Seated m.keys m.columns)
      (fun _ _ _ _ => Resolution.seated_addMarked) (EntityClass.nodup_fields hfields) hstart
      (fun _ _ => rfl) hgrown
  exact keyed_of_checked hseated h

theorem keyed_byConvention {type : EntityClass} {m : TableMap}
    (h : Resolution.byConvention type = .ok m) : m.Keyed := by
  obtain ⟨fields, -, h⟩ := bind_eq_ok.mp h
  refine keyed_of_checked ?_ h
  by_cases hid : fields.has Resolution.keyProperty = true
  · rw [if_pos hid]
    refine ⟨by simp [Entries.names], fun name part hpart => ?_⟩
    obtain ⟨hint, hhint⟩ := (Entries.has_iff_exists _ _).mp hid
    rw [Entries.get?] at hpart
    split at hpart
    · rename_i hname
      obtain rfl := Option.some.inj hpart
      rw [← hname, Entries.get?_map (fun property _ => property), hhint]
      exact ⟨rfl, rfl⟩
    · contradiction
  · rw [if_neg hid]
    exact ⟨List.nodup_nil, by simp⟩

theorem Resolved.keyed {m : TableMap} (h : m.Resolved) : m.Keyed := by
  cases h.origin with
  | @stated type steps _ hsteps h =>
      obtain ⟨fields, -, rfl⟩ := MappingDraft.of_finished hsteps
      exact keyed_of_checked (MappingDraft.seated type steps) h
  | marked h => exact keyed_byMarkers h
  | conventional h => exact keyed_byConvention h

namespace Keyed

variable {m : TableMap}

/-- The column of a key is that of its property. -/
theorem mem_columns (hm : m.Keyed) {part : KeyPart} (h : part ∈ m.keys.values) :
    (part.property, part.column) ∈ m.columns := by
  obtain ⟨⟨name, part⟩, hpart, rfl⟩ := List.mem_map.mp h
  obtain ⟨hproperty, hcolumn⟩ := hm.seated.column name part
    (Entries.get?_of_mem hm.seated.nodup hpart)
  rw [hproperty]
  exact Entries.mem_of_get? hcolumn

/-- A property with a column is bound by an insertion or is the automatic key. -/
theorem autoKey?_of_not_inserted (hm : m.Keyed) {p : String} (hp : p ∈ m.mappedProperties)
    (hinsert : p ∉ m.insertProperties.names) : ∃ part, m.autoKey? = some part ∧ part.property = p := by
  obtain ⟨⟨p, column⟩, hmapped, rfl⟩ := List.mem_map.mp hp
  have hauto : p ∈ autoProperties m.keys := by
    by_contra hnot
    exact hinsert (List.mem_map.mpr ⟨(p, column), List.mem_filter.mpr ⟨hmapped, by simpa using hnot⟩,
      rfl⟩)
  obtain ⟨part, hpart, rfl⟩ := List.mem_map.mp hauto
  have hautos := hm.single_auto
  rw [autoProperties, List.length_map] at hautos
  obtain ⟨only, honly⟩ := List.length_eq_one_iff.mp
    (Nat.le_antisymm hautos (List.length_pos_of_mem hpart))
  rw [honly] at hpart
  refine ⟨part, ?_, rfl⟩
  rw [autoKey?, ← List.head?_filter, honly, List.mem_singleton.mp hpart, List.head?_cons]

end Keyed

end TableMap

end RelationalMapper
