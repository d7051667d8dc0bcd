import Mathlib.Data.Finset.Card
import RelationalMapper.Proofs.Mapping.Canonical
import RelationalMapper.Session

/-! # Drafts that are registered

Whatever a draft is told, in whatever order and however often: it is refused exactly if it was told of a
property that is no field, or if two properties end as automatic keys. A draft that is refused leaves the
catalogue as it was, and one that is accepted changes it for its own class only. -/

namespace RelationalMapper

/-! ## Entries and lists -/

theorem Entries.length_put {β : Type} (entries : Entries β) (name : String) (b : β) :
    (entries.put name b).length = entries.length + if entries.has name then 0 else 1 := by
  by_cases h : entries.has name = true
  · obtain ⟨b', hb'⟩ := (has_iff_exists _ _).mp h
    obtain ⟨before, after, hsplit, hput⟩ := exists_split hb'
    rw [hput, hsplit]
    simp [has, hsplit ▸ hb']
  · have hnew : ∀ entries : Entries β, ¬entries.has name = true →
        (entries.put name b).length = entries.length + 1 := by
      intro entries h
      induction entries with
      | nil => rfl
      | cons entry rest ih =>
          obtain ⟨n, b'⟩ := entry
          have hn : n ≠ name := by
            rintro rfl
            simp [has, get?] at h
          rw [put, if_neg hn, List.length_cons, ih (by simpa [has, get?, hn] using h),
            List.length_cons]
    rw [hnew entries h, if_neg h]

/-- A list without repeats has more than one element if two different ones are in it. -/
theorem one_lt_length_iff {α : Type} [DecidableEq α] {xs : List α} (h : xs.Nodup) :
    1 < xs.length ↔ ∃ x y, x ≠ y ∧ x ∈ xs ∧ y ∈ xs := by
  rw [← List.toFinset_card_of_nodup h, Finset.one_lt_card]
  constructor
  · rintro ⟨x, hx, y, hy, hne⟩
    exact ⟨x, y, hne, List.mem_toFinset.mp hx, List.mem_toFinset.mp hy⟩
  · rintro ⟨x, y, hne, hx, hy⟩
    exact ⟨x, List.mem_toFinset.mpr hx, y, List.mem_toFinset.mpr hy, hne⟩

theorem exists_mapM_iff {α β : Type} {f : α → Except Failure β} {xs : List α} :
    (∃ ys, xs.mapM f = .ok ys) ↔ ∀ x ∈ xs, ∃ y, f x = .ok y := by
  induction xs with
  | nil => simp [pure, Except.pure]
  | cons x xs ih =>
      rw [List.forall_mem_cons, ← ih, List.mapM_cons]
      simp [bind_eq_ok, pure, Except.pure]

namespace MappingDraft

/-! ## What the steps say -/

/-- The property that a step is about. -/
def Step.property? : Step → Option String
  | toTable _ => none
  | hasKey property _ _ | map property _ _ | ignore property => some property

/-- What a step says about a property being an automatic key. -/
def Step.auto? (p : String) : Step → Option Bool
  | hasKey property _ auto => if property = p then some auto else none
  | _ => none

/-- The property ends as an automatic key: the last step that says anything about it says so. -/
def EndsAutomatic (steps : List Step) (p : String) : Prop :=
  (steps.filterMap (Step.auto? p)).getLast? = some true

/-- The steps do not fit a class with these fields. -/
def Misfit (fields : Entries Hint) (steps : List Step) : Prop :=
  (∃ p ∈ steps.filterMap Step.property?, p ∉ fields.names) ∨
    ∃ p q, p ≠ q ∧ EndsAutomatic steps p ∧ EndsAutomatic steps q

/-! ## What a draft holds -/

section Drafts

variable {type : EntityClass} {steps : List Step} {p : String}

theorem ofSteps_append (type : EntityClass) (steps : List Step) (step : Step) :
    ofSteps type (steps ++ [step]) = (ofSteps type steps).apply step := List.foldl_append

theorem type_ofSteps (type : EntityClass) (steps : List Step) : (ofSteps type steps).type = type := by
  refine ofSteps_invariant (P := fun d => d.type = type) rfl (fun d step hd => ?_) steps
  cases step <;> exact hd

theorem has_columns_apply (d : MappingDraft) (step : Step) :
    (d.apply step).columns.has p = true ↔ step.property? = some p ∨ d.columns.has p = true := by
  cases step with
  | toTable table => simp [apply, toTable, Step.property?]
  | hasKey property column auto =>
      simp [apply, hasKey, Step.property?, Entries.has_put, eq_comm (a := p)]
  | map property column traits =>
      simp [apply, map, Step.property?, Entries.has_put, eq_comm (a := p)]
  | ignore property =>
      simp only [apply, ignore, Step.property?, Option.some.injEq]
      split
      · rename_i hknown
        exact ⟨.inr, fun h => h.elim (· ▸ hknown) id⟩
      · rw [Entries.has_put, eq_comm]

/-- The columns are those of the properties that the draft was told of. -/
theorem has_columns_ofSteps (type : EntityClass) :
    (ofSteps type steps).columns.has p = true ↔ p ∈ steps.filterMap Step.property? := by
  induction steps using List.reverseRecOn with
  | nil => simp [ofSteps, start, Entries.has]
  | append_singleton steps step ih =>
      rw [ofSteps_append, has_columns_apply, ih, List.filterMap_append, List.mem_append, or_comm]
      simp [List.mem_filterMap]

theorem auto_apply (d : MappingDraft) (step : Step) :
    ((d.apply step).keys.get? p).map (·.auto) = (step.auto? p).or ((d.keys.get? p).map (·.auto)) := by
  cases step with
  | toTable table => rfl
  | ignore property => rfl
  | hasKey property column auto =>
      by_cases hp : property = p
      · subst hp
        simp [apply, hasKey, Step.auto?, Entries.get?_put_self]
      · simp [apply, hasKey, Step.auto?, hp, Entries.get?_put_of_ne _ _ (Ne.symm hp)]
  | map property column traits =>
      simp only [apply, map, Step.auto?, Option.none_or]
      cases hkey : d.keys.get? property with
      | none => rfl
      | some key =>
          by_cases hp : property = p
          · subst hp
            simp [hkey, Entries.get?_put_self]
          · simp [Entries.get?_put_of_ne _ _ (Ne.symm hp)]

/-- Of what was said about a key being automatic the last counts. -/
theorem auto_ofSteps (type : EntityClass) :
    ((ofSteps type steps).keys.get? p).map (·.auto) = (steps.filterMap (Step.auto? p)).getLast? := by
  -- Steps are applied to what those before them left, so the last one is split off.
  induction steps using List.reverseRecOn with
  | nil => rfl
  | append_singleton steps step ih =>
      rw [ofSteps_append, auto_apply, ih, List.filterMap_append, List.getLast?_append]
      cases hauto : step.auto? p <;> simp [hauto]

theorem autoProperties_eq (type : EntityClass) (steps : List Step) :
    TableMap.autoProperties (ofSteps type steps).keys =
      Entries.names ((ofSteps type steps).keys.filter (·.2.auto)) := by
  have hproperty := property_of_key type steps
  generalize (ofSteps type steps).keys = keys at hproperty
  rw [TableMap.autoProperties, Entries.values, List.filter_map, List.map_map, Entries.names]
  refine List.map_congr_left fun entry hmem => ?_
  exact hproperty entry.1 entry.2 (List.mem_filter.mp hmem).1

theorem mem_autoProperties :
    p ∈ TableMap.autoProperties (ofSteps type steps).keys ↔ EndsAutomatic steps p := by
  have hnodup := (seated type steps).nodup
  rw [autoProperties_eq, EndsAutomatic, ← auto_ofSteps type, Option.map_eq_some_iff]
  simp only [Entries.names, List.mem_map, List.mem_filter]
  constructor
  · rintro ⟨⟨name, part⟩, ⟨hmem, hauto⟩, rfl⟩
    exact ⟨part, Entries.get?_of_mem hnodup hmem, hauto⟩
  · rintro ⟨part, hpart, hauto⟩
    exact ⟨(p, part), ⟨Entries.mem_of_get? hpart, hauto⟩, rfl⟩

theorem one_lt_autoProperties (type : EntityClass) :
    1 < (TableMap.autoProperties (ofSteps type steps).keys).length ↔
      ∃ p q, p ≠ q ∧ EndsAutomatic steps p ∧ EndsAutomatic steps q := by
  have hnodup : (TableMap.autoProperties (ofSteps type steps).keys).Nodup := by
    rw [autoProperties_eq]
    exact (seated type steps).nodup.sublist (List.filter_sublist.map Prod.fst)
  rw [one_lt_length_iff hnodup]
  simp only [mem_autoProperties]

/-- A draft gives every key and every detail a column. -/
theorem unmapped_ofSteps (type : EntityClass) (steps : List Step) :
    TableMap.unmapped (ofSteps type steps).keys (ofSteps type steps).columns
      (ofSteps type steps).details = [] := by
  refine List.filter_eq_nil_iff.mpr fun p hp => ?_
  have hcolumn : (ofSteps type steps).columns.has p = true := by
    rcases List.mem_append.mp hp with hkey | hdetail
    · obtain ⟨part, hpart⟩ :=
        (Entries.has_iff_exists _ _).mp ((Entries.has_iff_mem_names _ _).mpr hkey)
      rw [Entries.has, ((seated type steps).column p part hpart).2]
      rfl
    · rw [Entries.has_iff_mem_names, ← (described type steps).names_details]
      exact hdetail
  simp [hcolumn]

end Drafts

end MappingDraft

/-! ## What is accepted -/

section Accepted

variable {type : EntityClass} {fields : Entries Hint}

theorem StatedMapping.exists_fieldsOf_iff (hfields : type.fields = .ok fields)
    (columns : Entries String) :
    (∃ found, fieldsOf type columns = .ok found) ↔ ∀ p ∈ columns.names, p ∈ fields.names := by
  rw [fieldsOf, hfields]
  refine exists_mapM_iff.trans (forall₂_congr fun p _ => ?_)
  rw [← Entries.has_iff_mem_names, Entries.has_iff_exists]
  cases fields.get? p <;> simp

theorem StatedMapping.misconfigured_fieldsOf (type : EntityClass) (columns : Entries String) :
    FailsOnly Resolution.Misconfigured (fieldsOf type columns) := by
  refine (Resolution.misconfigured_fields type).bind fun declared => failsOnly_mapM fun p _ => ?_
  split
  · exact failsOnly_ok _
  · exact failsOnly_error ⟨_, rfl⟩

/-- A draft that does not fit its class is refused as misconfigured. -/
theorem MappingDraft.finished_of_misfit (hfields : type.fields = .ok fields) {steps : List Step}
    (h : Misfit fields steps) :
    ∃ cause, (ofSteps type steps).finished = .error (.misconfiguration cause) := by
  rw [finished, type_ofSteps, StatedMapping.of]
  cases hfound : StatedMapping.fieldsOf type (ofSteps type steps).columns with
  | error e =>
      -- Fields are looked for first, so one that is missing hides automatic keys that are too many.
      obtain ⟨cause, rfl⟩ := StatedMapping.misconfigured_fieldsOf _ _ e hfound
      exact ⟨cause, rfl⟩
  | ok found =>
      have hknown := (StatedMapping.exists_fieldsOf_iff hfields _).mp ⟨found, hfound⟩
      rcases h with ⟨p, hp, hmissing⟩ | hautos
      · have hcolumn := (has_columns_ofSteps type).mpr hp
        exact absurd (hknown p ((Entries.has_iff_mem_names _ _).mp hcolumn)) hmissing
      · rw [unmapped_ofSteps]
        exact ⟨_, if_pos ((one_lt_autoProperties type).mpr hautos)⟩

/-- A draft that fits its class is the new mapping, as it stands, with the fields of its columns. -/
theorem MappingDraft.finished_of_fit (hfields : type.fields = .ok fields) {steps : List Step}
    (h : ¬Misfit fields steps) :
    let d := ofSteps type steps
    ∃ found, StatedMapping.fieldsOf type d.columns = .ok found ∧
      d.finished = .ok { type, table := d.table, keys := d.keys, columns := d.columns
                         details := d.details, fields := found } := by
  obtain ⟨hknown, hautos⟩ := not_or.mp h
  push Not at hknown
  obtain ⟨found, hfound⟩ := (StatedMapping.exists_fieldsOf_iff hfields (ofSteps type steps).columns).mpr
    fun p hp => hknown p ((has_columns_ofSteps type).mp ((Entries.has_iff_mem_names _ _).mpr hp))
  refine ⟨found, hfound, ?_⟩
  rw [finished, type_ofSteps, StatedMapping.of, hfound, unmapped_ofSteps]
  exact if_neg (mt (one_lt_autoProperties type).mp hautos)

end Accepted

/-! ## What is registered -/

/-- The second catalogue has the mapping for its class and is otherwise the first; classes go by their
names. -/
structure Catalog.Gains (catalog catalog' : Catalog) (m : StatedMapping) : Prop where
  own : catalog'.find? m.type = some m
  others : ∀ other : EntityClass, other.name ≠ m.type.name → catalog'.find? other = catalog.find? other
  size : catalog'.length = catalog.length + if catalog.isRegistered m.type then 0 else 1

theorem Catalog.gains_register (catalog : Catalog) (m : StatedMapping) :
    catalog.Gains (catalog.register m) m :=
  ⟨Entries.get?_put_self _ _ _, fun _ hother => Entries.get?_put_of_ne _ _ hother,
    Entries.length_put _ _ _⟩

open RelationalMapper.Action in
/-- A draft is registered or refused, and whether it is, is said by its steps. -/
theorem Session.register_draft {type : EntityClass} {fields : Entries Hint}
    (hfields : type.fields = .ok fields) (steps : List MappingDraft.Step) (s : Session) :
    let d := MappingDraft.ofSteps type steps
    ((∃ cause, ((register d.finished).perform s).1 = .error (.misconfiguration cause)) ↔
      MappingDraft.Misfit fields steps) ∧
    (∀ e, ((register d.finished).perform s).1 = .error e →
      ((register d.finished).perform s).2 = s ∧ ∃ cause, e = .misconfiguration cause) ∧
    (¬MappingDraft.Misfit fields steps → ∃ found catalog,
      StatedMapping.fieldsOf type d.columns = .ok found ∧
      (register d.finished).perform s = (.ok (), { s with catalog }) ∧
      s.catalog.Gains catalog { type, table := d.table, keys := d.keys, columns := d.columns
                                details := d.details, fields := found }) := by
  intro d
  by_cases h : MappingDraft.Misfit fields steps
  · obtain ⟨cause, hcause⟩ : ∃ cause, d.finished = .error (.misconfiguration cause) :=
      MappingDraft.finished_of_misfit hfields h
    have hrun : (register d.finished).perform s = (.error (.misconfiguration cause), s) := by
      rw [hcause]
      rfl
    refine ⟨⟨fun _ => h, fun _ => ⟨cause, by rw [hrun]⟩⟩, fun e he => ?_, fun hfit => absurd h hfit⟩
    rw [hrun] at he ⊢
    exact ⟨rfl, cause, (Except.error.inj he).symm⟩
  · obtain ⟨found, hfound, hfinished⟩ := MappingDraft.finished_of_fit hfields h
    have hrun : (register d.finished).perform s =
        (.ok (), { s with catalog := s.catalog.register
                            { type, table := d.table, keys := d.keys, columns := d.columns
                              details := d.details, fields := found } }) := by
      rw [hfinished]
      rfl
    refine ⟨⟨fun ⟨cause, hcause⟩ => ?_, fun hmisfit => absurd hmisfit h⟩, fun e he => ?_,
      fun _ => ⟨found, _, hfound, hrun, s.catalog.gains_register _⟩⟩
    · rw [hrun] at hcause
      contradiction
    · rw [hrun] at he
      contradiction

/-- The steps of a class of memos: a key is not automatic after all, and a property that is only ignored
gets a column. -/
def memoReplacing : List MappingDraft.Step :=
  [.hasKey "number" none true, .hasKey "text" none true, .hasKey "number" (some "no") false,
    .map "number" (some "id") {}, .ignore "text"]

theorem Session.register_draft_memos :
    memoClass.fields = .ok [("number", .type .int), ("text", .type .text)] ∧
      ∃ found catalog,
        StatedMapping.fieldsOf memoClass (MappingDraft.ofSteps memoClass memoReplacing).columns =
          .ok found ∧
        (register (MappingDraft.ofSteps memoClass memoReplacing).finished).perform
            { connection := { dialect := .sqlite }, catalog := memos } =
          (.ok (), { connection := { dialect := .sqlite }, catalog }) ∧
        memos.Gains catalog
          { type := memoClass, table := (MappingDraft.ofSteps memoClass memoReplacing).table
            keys := (MappingDraft.ofSteps memoClass memoReplacing).keys
            columns := (MappingDraft.ofSteps memoClass memoReplacing).columns
            details := (MappingDraft.ofSteps memoClass memoReplacing).details, fields := found } := by
  have hfields : memoClass.fields = .ok [("number", .type .int), ("text", .type .text)] := rfl
  refine ⟨hfields, (Session.register_draft hfields memoReplacing _).2.2 ?_⟩
  rintro (⟨p, hp, hmissing⟩ | hautos)
  · exact absurd hmissing (by revert p; decide)
  · exact absurd ((MappingDraft.one_lt_autoProperties memoClass).mpr hautos) (by decide)

end RelationalMapper
