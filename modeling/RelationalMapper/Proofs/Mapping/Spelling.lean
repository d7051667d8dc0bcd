import RelationalMapper.Proofs.Mapping.Marked

/-! # Two spellings of an optional field

A field that may be null is marked outside or inside the choice between its type and the null type. The
native type is looked for through both, but only markers on the outside are seen: written inside, they are
forgotten, and the property is stored as if nothing were said about it. -/

namespace RelationalMapper

/-! ## One entry instead of another -/

namespace Entries

variable {β γ : Type} {entries : Entries β} {name : String} {b b' : β}

/-- The entries under other names. -/
def without (entries : Entries β) (name : String) : Entries β := entries.filter (·.1 ≠ name)

theorem get?_collect (hnodup : entries.names.Nodup) (f : String → β → Option γ) (name : String) :
    (entries.collect f).get? name = (entries.get? name).bind (f name) := by
  induction entries with
  | nil => rfl
  | cons entry rest ih =>
      obtain ⟨n, b⟩ := entry
      obtain ⟨hn, hrest⟩ := List.nodup_cons.mp hnodup
      rw [collect_cons, get?]
      by_cases hname : n = name
      · subst hname
        rw [if_pos rfl]
        cases hsaid : f n b with
        | none =>
            rw [Option.bind_some, hsaid]
            exact get?_of_not_mem (mt mem_names_of_mem_collect hn)
        | some c =>
            rw [Option.bind_some, hsaid]
            exact if_pos rfl
      · rw [if_neg hname, ← ih hrest]
        cases f n b with
        | none => rfl
        | some c => exact if_neg hname

theorem collect_put_eq_iff (h : entries.get? name = some b) (f : String → β → Option γ) :
    (entries.put name b').collect f = entries.collect f ↔ f name b' = f name b := by
  obtain ⟨before, after, hsplit, hput⟩ := exists_split h
  rw [hput, hsplit, collect_append, collect_append, collect_cons, collect_cons,
    List.append_cancel_left_eq, List.append_cancel_right_eq]
  cases f name b <;> cases f name b' <;> simp

theorem without_collect_put (h : entries.get? name = some b) (f : String → β → Option γ) :
    ((entries.put name b').collect f).without name = (entries.collect f).without name := by
  have hout : ∀ said : Option γ,
      (said.map fun c => (name, c)).toList.filter (fun entry => entry.1 ≠ name) = [] := by
    intro said
    cases said <;> simp
  obtain ⟨before, after, hsplit, hput⟩ := exists_split h
  rw [hput, hsplit, collect_append, collect_append, collect_cons, collect_cons]
  simp only [without, List.filter_append, hout]

end Entries

namespace Hint

/-! ## Alternatives -/

/-- The hint is the choice between its own alternatives, as it is of every hint that was evaluated. -/
def Settled (h : Hint) : Prop := union [h] = h

theorem members_ne_nil (h : Hint) : h.members ≠ [] := by
  induction h with
  | either a b iha ihb => simp [members, iha]
  | _ => simp [members]

theorem members_of_mem_members {h member : Hint} (hmember : member ∈ h.members) :
    member.members = [member] := by
  induction h with
  | either a b iha ihb => exact (List.mem_append.mp hmember).elim iha ihb
  | _ =>
      obtain rfl := List.mem_singleton.mp hmember
      rfl

theorem members_foldl_either (h : Hint) (rest : List Hint) :
    (rest.foldl either h).members = h.members ++ rest.flatMap members := by
  induction rest generalizing h with
  | nil => simp
  | cons next rest ih => rw [List.foldl_cons, ih, members, List.append_assoc, List.flatMap_cons]

theorem mem_of_mem_withoutRepeats {hints : List Hint} {h : Hint} (hh : h ∈ withoutRepeats hints) :
    h ∈ hints := by
  induction hints with
  | nil => exact hh
  | cons first rest ih =>
      rcases List.mem_cons.mp hh with rfl | hrest
      · exact List.mem_cons_self
      · exact List.mem_cons_of_mem _ (ih (List.mem_of_mem_filter hrest))

theorem nodup_withoutRepeats (hints : List Hint) : (withoutRepeats hints).Nodup := by
  induction hints with
  | nil => exact List.nodup_nil
  | cons first rest ih => exact List.nodup_cons.mpr ⟨by simp, ih.filter _⟩

theorem withoutRepeats_of_nodup {hints : List Hint} (h : hints.Nodup) : withoutRepeats hints = hints := by
  induction hints with
  | nil => rfl
  | cons first rest ih =>
      obtain ⟨hfirst, hrest⟩ := List.nodup_cons.mp h
      rw [withoutRepeats, ih hrest, List.filter_eq_self.mpr]
      intro other hother
      simpa using ne_of_mem_of_not_mem hother hfirst

theorem withoutRepeats_concat (hints : List Hint) (h : Hint) :
    withoutRepeats (hints ++ [h]) =
      if h ∈ hints then withoutRepeats hints else withoutRepeats hints ++ [h] := by
  induction hints with
  | nil => rfl
  | cons first rest ih =>
      rw [List.cons_append, withoutRepeats, ih, withoutRepeats]
      by_cases hfirst : h = first
      · subst hfirst
        split <;> simp [List.filter_append]
      · by_cases hrest : h ∈ rest
        · simp [hrest]
        · simp [hrest, hfirst, List.filter_append]

theorem settled_of_members {h : Hint} (hself : h.members = [h]) : h.Settled := by
  simp [Settled, union, hself, withoutRepeats]

/-- Choosing between alternatives again changes nothing. -/
theorem settled_union (hints : List Hint) : (union hints).Settled := by
  cases hchosen : withoutRepeats (hints.flatMap members) with
  | nil =>
      rw [union, hchosen]
      exact settled_of_members rfl
  | cons first rest =>
      -- What is chosen from is not itself a choice.
      have halone : ∀ h ∈ first :: rest, h.members = [h] := by
        intro h hh
        rw [← hchosen] at hh
        obtain ⟨hint, -, hmember⟩ := List.mem_flatMap.mp (mem_of_mem_withoutRepeats hh)
        exact members_of_mem_members hmember
      have hmembers : (rest.foldl either first).members = first :: rest := by
        rw [members_foldl_either, halone first List.mem_cons_self,
          List.flatMap_congr fun h hh => halone h (List.mem_cons_of_mem _ hh)]
        simp
      have hnodup : withoutRepeats (first :: rest) = first :: rest :=
        withoutRepeats_of_nodup (hchosen ▸ nodup_withoutRepeats _)
      rw [union, hchosen]
      unfold Settled
      rw [union, List.flatMap_singleton, hmembers, hnodup]

theorem settled_of_evaluated {h t : Hint} (ht : h.evaluated = .ok t) : t.Settled := by
  cases h with
  | either a b =>
      obtain ⟨first, -, ht⟩ := bind_eq_ok.mp ht
      obtain ⟨second, -, ht⟩ := bind_eq_ok.mp ht
      rw [← Except.ok.inj ht]
      exact settled_union _
  | annotated h ms =>
      obtain ⟨inner, -, ht⟩ := bind_eq_ok.mp ht
      rw [← Except.ok.inj ht]
      cases inner <;> exact settled_of_members rfl
  | listOf h | classVariable h =>
      obtain ⟨inner, -, ht⟩ := bind_eq_ok.mp ht
      rw [← Except.ok.inj ht]
      exact settled_of_members rfl
  | named name =>
      cases hname : knownNames.lookup name with
      | none => simp [evaluated, hname] at ht
      | some known =>
          rw [evaluated, hname] at ht
          rw [← Except.ok.inj ht]
          exact settled_of_members rfl
  | _ =>
      rw [← Except.ok.inj ht]
      exact settled_of_members rfl

/-- The null type is added to the alternatives unless it is one of them. -/
theorem Settled.optional_eq {t : Hint} (ht : t.Settled) :
    t.optional = if .type .null ∈ t.members then t else either t (.type .null) := by
  have hmembers : [t, .type .null].flatMap members = t.members ++ [.type .null] := rfl
  obtain ⟨first, rest, hall⟩ := List.exists_cons_of_ne_nil t.members_ne_nil
  obtain ⟨more, hmore⟩ : ∃ more, withoutRepeats t.members = first :: more := by
    rw [hall]
    exact ⟨_, rfl⟩
  unfold Settled union at ht
  rw [List.flatMap_singleton, hmore] at ht
  unfold optional union
  rw [hmembers, withoutRepeats_concat, hmore]
  by_cases hnull : .type .null ∈ t.members
  · rw [if_pos hnull, if_pos hnull]
    exact ht
  · rw [if_neg hnull, if_neg hnull, List.cons_append]
    simp only [List.foldl_append, ht]
    rfl

/-! ## Spellings -/

variable {t : Hint} {ms : List Marker}

/-- Marked on the outside: the choice is annotated. -/
def markedOutside (t : Hint) (ms : List Marker) : Hint := t.optional.annotate ms

/-- Marked on the inside: what is annotated is one of two to choose from. -/
def markedInside (t : Hint) (ms : List Marker) : Hint := (t.annotate ms).optional

theorem annotate_eq (t : Hint) (ms : List Marker) :
    ∃ inner all, t.annotate ms = annotated inner all ∧ inner.native = t.native := by
  cases t with
  | annotated inner earlier => exact ⟨inner, earlier ++ ms, rfl, by rw [native]⟩
  | _ => exact ⟨_, ms, rfl, rfl⟩

theorem markedInside_eq (t : Hint) (ms : List Marker) :
    markedInside t ms = either (t.annotate ms) (.type .null) := by
  obtain ⟨inner, all, h, -⟩ := annotate_eq t ms
  rw [markedInside, h]
  rfl

theorem markers_markedInside (t : Hint) (ms : List Marker) : (markedInside t ms).markers = [] := by
  rw [markedInside_eq]
  rfl

/-- Marked on the inside, a field has the native type that it is declared with. -/
theorem native_markedInside (t : Hint) (ms : List Marker) :
    (markedInside t ms).native = t.native := by
  obtain ⟨inner, all, h, hnative⟩ := annotate_eq t ms
  rw [markedInside_eq, h]
  simp [native, alternatives, hnative]

theorem Settled.markers_markedOutside (ht : t.Settled) : (markedOutside t ms).markers = ms := by
  rw [markedOutside, ht.optional_eq]
  split
  · rename_i hnull
    cases t with
    | annotated inner earlier => simp [members] at hnull
    | _ => rfl
  · rfl

theorem native_markedOutside (t : Hint) (ms : List Marker) :
    (markedOutside t ms).native = t.optional.native := by
  obtain ⟨inner, all, h, hnative⟩ := annotate_eq t.optional ms
  rw [markedOutside, h, native, hnative]

theorem length_alternatives {h : Hint} (hnull : .type .null ∉ h.members) :
    h.alternatives.length = h.members.length := by
  induction h with
  | either a b iha ihb =>
      obtain ⟨ha, hb⟩ := not_or.mp (mt List.mem_append.mpr hnull)
      simp [alternatives, members, iha ha, ihb hb]
  | type t =>
      cases t with
      | null => exact absurd List.mem_cons_self hnull
      | _ => rfl
  | _ => rfl

theorem native_either {a b : Hint} (h : 1 < (a.alternatives ++ b.alternatives).length) :
    (either a b).native = either a b := by
  rw [native]
  split
  · rename_i hone
    rw [hone] at h
    contradiction
  · rfl

/-- The native type of the choice is that of the type unless the type is itself a choice of several, none
of them null. -/
theorem Settled.native_optional_iff (ht : t.Settled) :
    t.optional.native = t.native ↔ t.members = [t] ∨ .type .null ∈ t.members := by
  rw [ht.optional_eq]
  by_cases hnull : .type .null ∈ t.members
  · simp [hnull]
  · rw [if_neg hnull, or_iff_left hnull]
    have hlength := length_alternatives hnull
    cases t with
    -- With null the choice is one of three or more, and none of them is taken for its type.
    | either a b =>
        have hmany : 1 < ((either a b).members).length := by
          have ha := List.length_pos_of_ne_nil a.members_ne_nil
          have hb := List.length_pos_of_ne_nil b.members_ne_nil
          simp only [members, List.length_append]
          omega
        have hinner : 1 < (a.alternatives ++ b.alternatives).length := by
          rwa [← hlength] at hmany
        have houter : 1 < ((either a b).alternatives ++ alternatives (.type .null)).length := by
          rwa [List.length_append, hlength]
        rw [native_either houter, native_either hinner]
        refine iff_of_false (fun hsame => ?_) fun hone => ?_
        · simpa [members] using congrArg (fun h => h.members.length) hsame
        · rw [hone] at hmany
          contradiction
    | type t =>
        cases t with
        | null => exact absurd List.mem_cons_self hnull
        | _ => exact iff_of_true rfl rfl
    | annotated inner earlier => exact iff_of_true (by simp [native, alternatives]) rfl
    | _ => exact iff_of_true rfl rfl

end Hint

/-! ## The maps of both spellings -/

namespace TableMap

/-- The native types of the fields. -/
def natives (m : TableMap) : Entries Hint := m.fields.map fun (p, hint) => (p, hint.native)

/-- Nothing that is said about the table tells the maps apart. -/
structure SameTable (m m' : TableMap) : Prop where
  table : m'.table = m.table
  keys : m'.keys = m.keys
  columns : m'.columns = m.columns
  details : m'.details = m.details
  natives : m'.natives = m.natives

/-- The second map differs from the first in one property, which it stores as if nothing were said about
it. -/
structure Forgets (m : TableMap) (p : String) (hint : Hint) (m' : TableMap) : Prop where
  table : m'.table = m.table
  keys : m'.keys.without p = m.keys.without p
  columns : m'.columns.without p = m.columns.without p
  fields : m'.fields.without p = m.fields.without p
  details : m'.details.without p = m.details.without p
  key : m'.keys.get? p = none
  column : m'.columns.get? p = some (Text.snakeCase p)
  field : m'.fields.get? p = some hint
  detail : m'.details.get? p = some { property := p, name := Text.snakeCase p }

end TableMap

namespace Resolution

variable {fields : Entries Hint} {p : String} {hint hint' : Hint}

theorem marking?_nil (p : String) :
    marking? p [] = some
      { column := Text.snakeCase p
        detail := { property := p, name := Text.snakeCase p }
        key? := none } := rfl

theorem natives_marked (type : EntityClass) (table : String) (fields : Entries Hint) :
    (marked type table fields).natives =
      fields.collect fun p hint => (marking? p hint.markers).map fun _ => hint.native := by
  simp only [TableMap.natives, marked, Entries.collect, List.map_filterMap, Option.map_map]
  rfl

/-- A field without markers takes the place of another one. -/
theorem forgets_marked (type type' : EntityClass) (table : String) (hfields : fields.names.Nodup)
    (hp : fields.get? p = some hint) (hmarkers : hint'.markers = []) :
    (marked type table fields).Forgets p hint' (marked type' table (fields.put p hint')) := by
  have hnodup := Entries.nodup_names_put hfields p hint'
  constructor <;> simp only [marked]
  case keys | columns | fields | details => exact Entries.without_collect_put hp _
  case key | column | field | detail =>
    simp only [Entries.get?_collect hnodup, Entries.get?_put_self, Option.bind_some, hmarkers,
      marking?_nil, Option.map_some]

theorem sameTable_marked (type type' : EntityClass) (table : String)
    (hp : fields.get? p = some hint) (hmarkers : hint'.markers = []) :
    (marked type table fields).SameTable (marked type' table (fields.put p hint')) ↔
      marking? p hint.markers = marking? p [] ∧ hint'.native = hint.native := by
  constructor
  · rintro ⟨-, hkeys, hcolumns, hdetails, hnatives⟩
    rw [natives_marked, natives_marked] at hnatives
    simp only [marked] at hkeys hcolumns hdetails
    rw [Entries.collect_put_eq_iff hp, hmarkers, marking?_nil] at hkeys hcolumns hdetails hnatives
    rw [marking?_nil]
    cases hmarking : marking? p hint.markers with
    | none => simp [hmarking] at hcolumns
    | some marking =>
        rw [hmarking] at hkeys hcolumns hdetails hnatives
        obtain ⟨column, detail, key⟩ := marking
        simp only [Option.map_some, Option.bind_some, Option.some.injEq] at hkeys hcolumns hdetails hnatives
        exact ⟨by rw [← hdetails, ← hkeys, ← hcolumns], hnatives⟩
  · rintro ⟨hmarking, hnative⟩
    constructor
    case table => rfl
    case natives =>
      rw [natives_marked, natives_marked, Entries.collect_put_eq_iff hp, hmarkers, hmarking, hnative]
    case keys | columns | details =>
      simp only [marked]
      rw [Entries.collect_put_eq_iff hp, hmarkers, hmarking]

theorem length_autoKeys_put (hp : fields.get? p = some hint) (hmarkers : hint'.markers = []) :
    (autoKeys (fields.put p hint')).length ≤ (autoKeys fields).length := by
  obtain ⟨before, after, hsplit, hput⟩ := Entries.exists_split hp
  have hplain : isAutoKey hint'.markers = false := by rw [hmarkers]; rfl
  rw [hput, hsplit, autoKeys, autoKeys, List.filter_append, List.filter_append,
    List.filter_cons_of_neg (by simp [hplain]), List.length_append, List.length_append]
  exact Nat.add_le_add_left (List.Sublist.length_le ((List.sublist_cons_self _ _).filter _)) _

variable {catalog : Catalog} {c c' : EntityClass} {table : String} {t : Hint} {ms : List Marker}
  {m : TableMap}

theorem resolve_of_marker (hcatalog : catalog.find? c = none) (hmarker : c.marker = some table) :
    resolve catalog c = byMarkers c (if table = "" then Text.lower c.name else table) := by
  simp [resolve, hcatalog, hmarker]

/-- A marked class whose field is marked on the outside and the same class with the field marked on the
inside: the second is resolved whenever the first is, but it forgets what the markers say. The two
describe the same table exactly if the markers say nothing, and the type is not itself a choice of
several types, none of them null. -/
theorem resolve_markedInside {h : Hint} (ht : h.evaluated = .ok t) (hname : c'.name = c.name)
    (hmarker : c.marker = some table) (hmarker' : c'.marker = some table)
    (hcatalog : catalog.find? c = none) (hfields : c.fields = .ok fields)
    (hp : fields.get? p = some (t.markedOutside ms))
    (hfields' : c'.fields = .ok (fields.put p (t.markedInside ms)))
    (hm : resolve catalog c = .ok m) :
    ∃ m', resolve catalog c' = .ok m' ∧ m.Forgets p (t.markedInside ms) m' ∧
      (m.SameTable m' ↔ marking? p ms = marking? p [] ∧
        (t.members = [t] ∨ .type .null ∈ t.members)) := by
  have hsettled := Hint.settled_of_evaluated ht
  have hcatalog' : catalog.find? c' = none := by
    rw [Catalog.find?, hname]
    exact hcatalog
  have hinside := Hint.markers_markedInside t ms
  rw [resolve_of_marker hcatalog hmarker, byMarkers_eq_ok] at hm
  obtain ⟨declared, hdeclared, hautos, rfl⟩ := hm
  obtain rfl := Except.ok.inj (hfields.symm.trans hdeclared)
  refine ⟨_, ?_, forgets_marked c c' _ (EntityClass.nodup_fields hfields) hp hinside, ?_⟩
  · rw [resolve_of_marker hcatalog' hmarker', byMarkers_eq_ok, hname]
    exact ⟨_, hfields', Nat.le_trans (length_autoKeys_put hp hinside) hautos, rfl⟩
  · rw [sameTable_marked c c' _ hp hinside, hsettled.markers_markedOutside,
      Hint.native_markedInside, Hint.native_markedOutside, eq_comm (a := t.native),
      hsettled.native_optional_iff]

/-- A marked class with a number and a name. -/
def itemClass (number : Hint) : EntityClass :=
  { name := "Item", marker := some "items"
    lineage := [{ name := "Item", defaults := [], construction := none
                  fields := [("itemNo", number), ("name", .type .text)] }] }

/-- The number is an automatic key, as it is marked outside or inside. -/
def keyOutside : Hint := Hint.markedOutside (.type .int) [.key {}]

def keyInside : Hint := Hint.markedInside (.type .int) [.key {}]

theorem resolve_markedInside_item :
    ∃ m m', resolve [] (itemClass keyOutside) = .ok m ∧ resolve [] (itemClass keyInside) = .ok m' ∧
      m.Forgets "itemNo" keyInside m' ∧ ¬m.SameTable m' := by
  have htype : (Hint.type .int).evaluated = .ok (.type .int) := rfl
  have hfields : (itemClass keyOutside).fields =
      .ok [("itemNo", keyOutside), ("name", .type .text)] := rfl
  have hfields' : (itemClass keyInside).fields =
      .ok (Entries.put [("itemNo", keyOutside), ("name", .type .text)] "itemNo" keyInside) := rfl
  have hnumber : Entries.get? [("itemNo", keyOutside), ("name", .type .text)] "itemNo" =
      some (Hint.markedOutside (.type .int) [.key {}]) := rfl
  have hname : (itemClass keyInside).name = (itemClass keyOutside).name := rfl
  obtain ⟨m, hm⟩ : ∃ m, resolve [] (itemClass keyOutside) = .ok m := ⟨_, rfl⟩
  obtain ⟨m', hm', hforgets, hsame⟩ :=
    resolve_markedInside htype hname rfl rfl rfl hfields hnumber hfields' hm
  have hdiffer : marking? "itemNo" [.key {}] ≠ marking? "itemNo" [] := by decide +kernel
  exact ⟨m, m', hm, hm', hforgets, fun h => hdiffer (hsame.mp h).1⟩

/-- Marked on the inside, the number is no key. -/
theorem key_forgotten :
    (∃ m, resolve [] (itemClass keyOutside) = .ok m ∧
      m.keys = [("itemNo", ⟨"itemNo", "item_no", true⟩)]) ∧
    ∃ m', resolve [] (itemClass keyInside) = .ok m' ∧ m'.keys = [] :=
  ⟨⟨_, rfl, by decide +kernel⟩, _, rfl, by decide +kernel⟩

end Resolution

end RelationalMapper
