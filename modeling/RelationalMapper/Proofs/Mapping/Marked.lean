import Mathlib.Data.List.Induction
import RelationalMapper.Proofs.Mapping.Canonical

/-! # What the markers of a class say

How a field is stored is said by its own markers. The map of a marked class is what its fields say, one
after another, and such a class is refused only for a name without meaning or a second automatic key. -/

namespace RelationalMapper

/-! ## Entries drawn from entries -/

namespace Entries

variable {β γ : Type}

/-- What every entry gives, if it gives anything, under its own name. -/
def collect (f : String → β → Option γ) (entries : Entries β) : Entries γ :=
  entries.filterMap fun (name, b) => (f name b).map fun c => (name, c)

theorem collect_cons (f : String → β → Option γ) (name : String) (b : β) (rest : Entries β) :
    collect f ((name, b) :: rest) =
      ((f name b).map fun c => (name, c)).toList ++ collect f rest := by
  cases h : f name b <;> simp [collect, h]

theorem collect_append (f : String → β → Option γ) (first second : Entries β) :
    collect f (first ++ second) = collect f first ++ collect f second := List.filterMap_append

theorem mem_names_collect {f : String → β → Option γ} {entries : Entries β} {name : String} :
    name ∈ (entries.collect f).names ↔ ∃ b, (name, b) ∈ entries ∧ (f name b).isSome = true := by
  simp only [names, collect, List.mem_map, List.mem_filterMap, Option.isSome_iff_exists]
  constructor
  · rintro ⟨_, ⟨⟨n, b⟩, hb, hsaid⟩, rfl⟩
    obtain ⟨c, hc, rfl⟩ := Option.map_eq_some_iff.mp hsaid
    exact ⟨b, hb, c, hc⟩
  · rintro ⟨b, hb, c, hc⟩
    exact ⟨(name, c), ⟨(name, b), hb, by simp [hc]⟩, rfl⟩

theorem mem_names_of_mem_collect {f : String → β → Option γ} {entries : Entries β} {name : String}
    (h : name ∈ (entries.collect f).names) : name ∈ entries.names := by
  obtain ⟨b, hb, -⟩ := mem_names_collect.mp h
  exact List.mem_map.mpr ⟨_, hb, rfl⟩

/-- A new name comes last. -/
theorem put_eq_append {entries : Entries β} {name : String} (h : name ∉ entries.names) (b : β) :
    entries.put name b = entries ++ [(name, b)] := by
  induction entries with
  | nil => rfl
  | cons e rest ih =>
      obtain ⟨n, b'⟩ := e
      obtain ⟨hn, hrest⟩ := not_or.mp (List.mem_cons.not.mp h)
      rw [put, if_neg (Ne.symm hn), ih hrest, List.cons_append]

theorem put_collect {f : String → β → Option γ} {entries : Entries β} {name : String}
    (h : name ∉ entries.names) {b : β} {c : γ} (hc : f name b = some c) :
    (entries.collect f).put name c = (entries ++ [(name, b)]).collect f := by
  rw [put_eq_append (mt mem_names_of_mem_collect h), collect_append, collect_cons, hc]
  rfl

end Entries

namespace Resolution

/-! ## Markings -/

/-- How a field is stored. -/
structure Marking where
  column : String
  detail : ColumnDetail
  key? : Option KeyPart
  deriving DecidableEq

/-- How a property with these markers is stored, unless they keep it out of the map. -/
def marking? (property : String) (markers : List Marker) : Option Marking :=
  if Marker.isNotMapped markers then none
  else
    let column := Marker.column? markers
    let key := Marker.key? markers
    let name := columnName property column key
    some
      { column := name
        detail := markedDetail property name column key.isSome
        key? := key.map fun k => ⟨property, name, k.auto⟩ }

/-- The markers make a field an automatic key. -/
def isAutoKey (markers : List Marker) : Bool :=
  !Marker.isNotMapped markers && (Marker.key? markers).any (·.auto)

/-- The map with one more field. -/
def withField (m : TableMap) (property : String) (hint : Hint) (marking : Marking) : TableMap :=
  { m with
    keys := marking.key?.elim m.keys (m.keys.put property)
    columns := m.columns.put property marking.column
    fields := m.fields.put property hint
    details := m.details.put property marking.detail }

theorem addMarked_of_none {property : String} {hint : Hint}
    (h : marking? property hint.markers = none) (m : TableMap) :
    addMarked m property hint = .ok m ∧ isAutoKey hint.markers = false := by
  have hout : Marker.isNotMapped hint.markers = true := by simpa [marking?] using h
  simp [addMarked, isAutoKey, hout]

theorem addMarked_of_some {property : String} {hint : Hint} {marking : Marking}
    (h : marking? property hint.markers = some marking) (m m' : TableMap) :
    addMarked m property hint = .ok m' ↔
      (isAutoKey hint.markers = true → m.autoKey? = none) ∧ m' = withField m property hint marking := by
  have hin : Marker.isNotMapped hint.markers = false := by
    by_contra hout
    simp [marking?, hout] at h
  simp only [marking?, hin, Bool.false_eq_true, if_false, Option.some.injEq] at h
  subst h
  simp only [addMarked, isAutoKey, hin, Bool.false_eq_true, if_false, Bool.not_false,
    Bool.true_and]
  cases hkey : Marker.key? hint.markers with
  | none => simp [withField, eq_comm (b := m')]
  | some k =>
      cases hauto : m.autoKey? with
      | none => simp [withField, eq_comm (b := m')]
      | some first => cases hk : k.auto <;> simp [withField, hk, eq_comm (b := m')]

/-! ## The map of a marked class -/

/-- The map that the fields describe by their markers. -/
def marked (type : EntityClass) (table : String) (fields : Entries Hint) : TableMap where
  type := type
  table := table
  keys := fields.collect fun p hint => (marking? p hint.markers).bind (·.key?)
  columns := fields.collect fun p hint => (marking? p hint.markers).map (·.column)
  fields := fields.collect fun p hint => (marking? p hint.markers).map fun _ => hint
  details := fields.collect fun p hint => (marking? p hint.markers).map (·.detail)

/-- The fields that are automatic keys. -/
def autoKeys (fields : Entries Hint) : Entries Hint :=
  fields.filter fun (_, hint) => isAutoKey hint.markers

variable {type : EntityClass} {table : String} {fields : Entries Hint}

theorem marked_append_of_none {p : String} {hint : Hint} (h : marking? p hint.markers = none) :
    marked type table (fields ++ [(p, hint)]) = marked type table fields := by
  simp [marked, Entries.collect, h]

theorem marked_append_of_some {p : String} {hint : Hint} {marking : Marking}
    (hp : p ∉ fields.names) (h : marking? p hint.markers = some marking) :
    marked type table (fields ++ [(p, hint)]) =
      withField (marked type table fields) p hint marking := by
  have hkeys : (fields ++ [(p, hint)]).collect
      (fun p hint => (marking? p hint.markers).bind (·.key?)) =
        marking.key?.elim (marked type table fields).keys ((marked type table fields).keys.put p) := by
    cases hkey : marking.key? with
    | none => simp [marked, Entries.collect, h, hkey]
    | some part => exact (Entries.put_collect hp (by simp [h, hkey])).symm
  rw [withField, ← hkeys]
  simp only [marked]
  rw [Entries.put_collect hp (by rw [h]; rfl), Entries.put_collect hp (by rw [h]; rfl),
    Entries.put_collect hp (by rw [h]; rfl)]

theorem autoProperties_marked (type : EntityClass) (table : String) (fields : Entries Hint) :
    TableMap.autoProperties (marked type table fields).keys = (autoKeys fields).names := by
  induction fields with
  | nil => rfl
  | cons field rest ih =>
      obtain ⟨p, hint⟩ := field
      simp only [marked, TableMap.autoProperties, Entries.values, autoKeys, Entries.names] at ih ⊢
      rw [Entries.collect_cons, List.map_append, List.filter_append, List.map_append, ih]
      cases hout : Marker.isNotMapped hint.markers with
      | true => simp [marking?, isAutoKey, hout]
      | false =>
          cases hkey : Marker.key? hint.markers with
          | none => simp [marking?, isAutoKey, hout, hkey]
          | some k => cases hauto : k.auto <;> simp [marking?, isAutoKey, hout, hkey, hauto]

theorem autoKey?_marked_eq_none :
    (marked type table fields).autoKey? = none ↔ autoKeys fields = [] := by
  have h := autoProperties_marked type table fields
  rw [TableMap.autoKey?, ← List.head?_filter, List.head?_eq_none_iff]
  unfold TableMap.autoProperties Entries.names at h
  rw [← List.map_eq_nil_iff (f := (·.property)), h, List.map_eq_nil_iff]

theorem length_autoKeys_append (fields : Entries Hint) (p : String) (hint : Hint) :
    (autoKeys (fields ++ [(p, hint)])).length ≤ 1 ↔
      (autoKeys fields).length ≤ 1 ∧ (isAutoKey hint.markers = true → autoKeys fields = []) := by
  rw [autoKeys, List.filter_append, List.length_append, ← autoKeys, ← List.length_eq_zero_iff]
  cases hauto : isAutoKey hint.markers with
  | false => simp [hauto]
  | true =>
      simp only [hauto, List.filter_cons_of_pos, List.filter_nil, List.length_singleton, true_imp_iff]
      omega

/-- Fields are taken one by one, and what they say comes to stand in their order, as long as there is no
second automatic key. -/
theorem foldlM_addMarked (hfields : fields.names.Nodup) (m : TableMap) :
    fields.foldlM (fun m (property, hint) => addMarked m property hint) { type, table } = .ok m ↔
      (autoKeys fields).length ≤ 1 ∧ m = marked type table fields := by
  -- Fields only add to what those before them said, so the last one is split off.
  induction fields using List.reverseRecOn generalizing m with
  | nil => simp [marked, Entries.collect, autoKeys, pure, Except.pure, eq_comm]
  | append_singleton fields field ih =>
      obtain ⟨p, hint⟩ := field
      have hsplit : (Entries.names fields ++ [p]).Nodup := by simpa [Entries.names] using hfields
      obtain ⟨hnodup, -, hdisjoint⟩ := List.nodup_append.mp hsplit
      have hp : p ∉ Entries.names fields := fun hmem => hdisjoint p hmem p (by simp) rfl
      rw [List.foldlM_append, bind_eq_ok]
      simp only [ih hnodup, List.foldlM_cons, List.foldlM_nil, bind_pure, and_assoc,
        exists_and_left, exists_eq_left, length_autoKeys_append]
      cases hmarking : marking? p hint.markers with
      | none =>
          obtain ⟨hadded, hauto⟩ := addMarked_of_none hmarking (marked type table fields)
          rw [marked_append_of_none hmarking, hadded, hauto]
          simp [eq_comm (b := m)]
      | some marking =>
          rw [marked_append_of_some hp hmarking, addMarked_of_some hmarking,
            autoKey?_marked_eq_none]

theorem unmapped_marked (type : EntityClass) (table : String) (fields : Entries Hint) :
    TableMap.unmapped (marked type table fields).keys (marked type table fields).columns
      (marked type table fields).details = [] := by
  refine List.filter_eq_nil_iff.mpr fun p hp => ?_
  have hmarking : ∃ hint, (p, hint) ∈ fields ∧ (marking? p hint.markers).isSome = true := by
    simp only [marked, List.mem_append] at hp
    rcases hp with hkey | hdetail
    · obtain ⟨hint, hhint, hsaid⟩ := Entries.mem_names_collect.mp hkey
      exact ⟨hint, hhint, Option.isSome_of_isSome_bind hsaid⟩
    · obtain ⟨hint, hhint, hsaid⟩ := Entries.mem_names_collect.mp hdetail
      exact ⟨hint, hhint, by rwa [Option.isSome_map] at hsaid⟩
  have hcolumn : p ∈ (marked type table fields).columns.names := by
    simpa [marked, Entries.mem_names_collect] using hmarking
  simp [(Entries.has_iff_mem_names _ _).mpr hcolumn]

/-- The map of a marked class is what its fields say, and all that is asked of them is that their hints
have a meaning and that one of them at most is an automatic key. -/
theorem byMarkers_eq_ok {m : TableMap} :
    byMarkers type table = .ok m ↔
      ∃ fields, type.fields = .ok fields ∧ (autoKeys fields).length ≤ 1 ∧
        m = marked type table fields := by
  rw [byMarkers, bind_eq_ok]
  refine exists_congr fun fields => and_congr_right fun hfields => ?_
  rw [bind_eq_ok]
  simp only [foldlM_addMarked (EntityClass.nodup_fields hfields), and_assoc, exists_and_left,
    exists_eq_left]
  rw [TableMap.checked_eq_ok, autoProperties_marked, Entries.names, List.length_map]
  have hmapped := unmapped_marked type table fields
  exact ⟨fun h => ⟨h.1, h.2.2.2⟩, fun h => ⟨h.1, hmapped, h.1, h.2⟩⟩

end Resolution

end RelationalMapper
