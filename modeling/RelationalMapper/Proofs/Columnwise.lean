import RelationalMapper.Proofs.Labels

/-! # Columns that do not touch each other

The labels of a row are told apart without case. Then a property has at most one label, and what it is
in the entity depends on the value under that label only: not on the order of the columns, not on other
columns, and not on what cannot be converted elsewhere. The row is refused only for a value that there is
no room for. -/

namespace RelationalMapper

open RelationalMapper.Action

/-! ## Room for a value -/

theorem Value.isVast_of_plain {v : Value} {target : NativeType} (h : v = .null ∨ target = .object) :
    v.isVast target = false := by
  rcases h with rfl | rfl
  · rfl
  · cases v with
    | list items => rfl
    | scalar s =>
        have hnone : Conversion.wholeSource? s.unwrapped .object = none := by
          unfold Conversion.wholeSource?
          split <;> rfl
        simp [Value.isVast, hnone]

/-- A field takes the value as it is, or has room for what its rule makes of it. -/
def Hint.HasRoom (h : Hint) (v : Value) : Prop :=
  ∀ target, h.nativeType? = some target → v.type = target ∨ v.isVast target = false

theorem Value.converted_eq_outOfMemory_iff {v : Value} {target : NativeType} :
    v.converted target = .error .outOfMemory ↔ v.type ≠ target ∧ v.isVast target = true := by
  unfold Value.converted
  split
  · rename_i hplain
    rcases or_assoc.mpr hplain with hplain | htype
    · simp [isVast_of_plain hplain]
    · simp [htype]
  · rename_i hplain
    have htype : v.type ≠ target := fun h => hplain (.inr (.inr h))
    split
    · rename_i hvast
      simp [htype, hvast]
    · rename_i hvast
      simp only [hvast]
      split <;> simp

theorem Hint.convert_eq_outOfMemory_iff {h : Hint} {v : Value} :
    h.convert v = .error .outOfMemory ↔ ¬h.HasRoom v := by
  unfold Hint.convert Hint.HasRoom
  cases h.nativeType? with
  | none => simp
  | some target => simp [Value.converted_eq_outOfMemory_iff]

namespace Row

variable {m : TableMap} {row row' : Row} {p : String}

/-! ## Entering columns -/

/-- The label leads to no property, or to a field that has room for the value. -/
def Enterable (m : TableMap) (entry : String × Value) : Prop :=
  ∀ p, m.property? entry.1 = some p → ∃ hint, m.fields.get? p = some hint ∧ hint.HasRoom entry.2

/-- Each column of the row can be entered. -/
def Readable (m : TableMap) (row : Row) : Prop := ∀ entry ∈ row, Enterable m entry

theorem enterColumn_of_unmatched {label : String} (h : m.property? label = none) (e : Entity)
    (value : Value) : enterColumn m e label value = pure e := by
  simp [enterColumn, h]

/-- Whether a column can be entered is said by its label and its value alone. -/
theorem exists_enterColumn_iff {e : Entity} {label : String} {value : Value} {c : Connection} :
    (∃ e' c', (enterColumn m e label value).perform c = (.ok e', c')) ↔ Enterable m (label, value) := by
  unfold enterColumn Enterable
  cases m.property? label with
  | none => simp
  | some p =>
      simp only [Option.some.injEq, forall_eq', perform_bind, perform_ofExcept, TableMap.requireField]
      cases m.fields.get? p with
      | none => simp
      | some hint =>
          have hroom : hint.HasRoom value ↔ hint.convert value ≠ .error .outOfMemory :=
            not_iff_not.mp (by rw [not_not, Hint.convert_eq_outOfMemory_iff])
          simp only [Option.elim_some, Option.some.injEq, exists_eq_left', hroom]
          cases hint.convert value with
          | ok w => simp
          | error f => cases f <;> simp [Connection.report, Except.map]

/-- A row is read if each of its columns can be entered. -/
theorem exists_enterColumns_iff {e : Entity} {c : Connection} :
    (∃ e' c', (row.foldlM (fun e (label, value) => enterColumn m e label value) e).perform c =
      (.ok e', c')) ↔ Readable m row := by
  induction row generalizing e c with
  | nil => simp [Readable]
  | cons entry row ih =>
      obtain ⟨label, value⟩ := entry
      rw [Readable, List.forall_mem_cons, ← exists_enterColumn_iff (e := e) (c := c), List.foldlM_cons]
      constructor
      · rintro ⟨e', c', h⟩
        obtain ⟨e₁, c₁, hfirst, hrest⟩ := of_perform_bind_ok h
        exact ⟨⟨e₁, c₁, hfirst⟩, ih.mp ⟨e', c', hrest⟩⟩
      · rintro ⟨⟨e₁, c₁, hfirst⟩, hreadable⟩
        rw [perform_bind_ok hfirst]
        exact ih.mpr hreadable

theorem exists_toEntity_iff (hmade : m.type.construction ≠ .fails) {c : Connection} :
    (∃ e c', (row.toEntity m).perform c = (.ok e, c')) ↔ Readable m row := by
  have hblank : Entity.blank m.type = .ok { type := m.type, attributes := [] } := by
    unfold Entity.blank
    split
    · contradiction
    · rfl
  rw [toEntity, hblank]
  exact exists_enterColumns_iff

/-- A label that leads nowhere is passed over without a trace. -/
theorem toEntity_matched (m : TableMap) (row : Row) :
    toEntity m (row.filter fun entry => (m.property? entry.1).isSome) = row.toEntity m := by
  refine bind_congr fun blank => ?_
  induction row generalizing blank with
  | nil => rfl
  | cons entry row ih =>
      obtain ⟨label, value⟩ := entry
      cases hproperty : m.property? label with
      | none =>
          rw [List.filter_cons_of_neg (by simp [hproperty]), ih, List.foldlM_cons]
          simp only [enterColumn_of_unmatched hproperty, pure_bind]
      | some p =>
          rw [List.filter_cons_of_pos (by simp [hproperty]), List.foldlM_cons, List.foldlM_cons]
          exact bind_congr ih

/-! ## The label of a property -/

/-- No two labels of the row are equal without case. -/
def Labelled (row : Row) : Prop := (row.names.map Text.lower).Nodup

/-- The value under the label of a property. -/
def own? (m : TableMap) (row : Row) (p : String) : Option Value :=
  (row.find? fun entry => m.property? entry.1 = some p).map (·.2)

/-- What the field of a property takes of a value. -/
def accepted? (m : TableMap) (p : String) (v : Value) : Option Value :=
  (m.fields.get? p).bind fun hint => (hint.convert v).toOption

theorem lower_of_property? (hnames : m.columns.names.Nodup) {label label' : String}
    (h : m.property? label = some p) (h' : m.property? label' = some p) :
    Text.lower label = Text.lower label' := by
  have hcolumn : ∀ label, m.property? label = some p →
      ∃ column, m.columns.get? p = some column ∧ Text.lower column = Text.lower label := by
    intro label h
    rcases Option.or_eq_some_iff.mp h with hexact | ⟨-, hloose⟩
    · have hmem := (TableMap.propertyWhere?_eq_some_iff.mp hexact).mem
      exact ⟨label, Entries.get?_of_mem hnames hmem, rfl⟩
    · obtain ⟨⟨p, column⟩, hfound, rfl⟩ := Option.map_eq_some_iff.mp hloose
      exact ⟨column, Entries.get?_of_mem hnames (List.mem_of_find?_eq_some hfound),
        by simpa using List.find?_some hfound⟩
  obtain ⟨column, hcolumn₁, hlower⟩ := hcolumn label h
  obtain ⟨column', hcolumn₂, hlower'⟩ := hcolumn label' h'
  obtain rfl := Option.some.inj (hcolumn₁.symm.trans hcolumn₂)
  exact hlower.symm.trans hlower'

section Labelled

variable (hnames : m.columns.names.Nodup)

include hnames

/-- Behind the label of a property there is no other one. -/
theorem Labelled.not_behind {entry : String × Value} (h : Labelled (entry :: row))
    (hlead : m.property? entry.1 = some p) : ∀ later ∈ row, m.property? later.1 ≠ some p := by
  intro later hlater hlead'
  refine (List.nodup_cons.mp h).1 ?_
  rw [lower_of_property? hnames hlead hlead']
  exact List.mem_map_of_mem (List.mem_map_of_mem hlater)

theorem Labelled.own?_eq_some_iff (h : Labelled row) {v : Value} :
    own? m row p = some v ↔ ∃ label, (label, v) ∈ row ∧ m.property? label = some p := by
  induction row with
  | nil => simp [own?]
  | cons entry row ih =>
      obtain ⟨label, value⟩ := entry
      have hrest := ih (List.nodup_cons.mp h).2
      by_cases hlead : m.property? label = some p
      · have hbehind := h.not_behind hnames hlead
        have hown : own? m ((label, value) :: row) p = some value := by simp [own?, hlead]
        rw [hown, Option.some.injEq]
        constructor
        · rintro rfl
          exact ⟨label, List.mem_cons_self, hlead⟩
        · rintro ⟨label', hmem, hlead'⟩
          rcases List.mem_cons.mp hmem with heq | hmem
          · exact (Prod.mk.inj heq).2.symm
          · exact absurd hlead' (hbehind _ hmem)
      · have hown : own? m ((label, value) :: row) p = own? m row p := by simp [own?, hlead]
        rw [hown, hrest]
        refine exists_congr fun label' => and_congr_left fun hlead' => ?_
        rw [List.mem_cons, or_iff_right]
        rintro heq
        exact hlead ((Prod.mk.inj heq).1 ▸ hlead')

/-- What the row makes of a property it makes of the value under its label. -/
theorem Labelled.getLast?_entered? (h : Labelled row) :
    (row.filterMap (entered? m p)).getLast? = (own? m row p).bind (accepted? m p) := by
  induction row with
  | nil => rfl
  | cons entry row ih =>
      have hrest := ih (List.nodup_cons.mp h).2
      rw [List.filterMap_cons]
      by_cases hlead : m.property? entry.1 = some p
      · have hnone : row.filterMap (entered? m p) = [] := by
          refine List.filterMap_eq_nil_iff.mpr fun later hlater => ?_
          simp [entered?, taken?, h.not_behind hnames hlead later hlater]
        have hown : own? m (entry :: row) p = some entry.2 := by simp [own?, hlead]
        have hentered : entered? m p entry = accepted? m p entry.2 := by
          simp [entered?, taken?, accepted?, hlead]
        rw [hnone, hown, hentered, Option.bind_some]
        cases accepted? m p entry.2 <;> rfl
      · have hown : own? m (entry :: row) p = own? m row p := by simp [own?, hlead]
        have hentered : entered? m p entry = none := by simp [entered?, taken?, hlead]
        rw [hentered, hown]
        exact hrest

end Labelled

/-! ## Reading a row column by column -/

/-- The columns of a row are entered independently of each other. -/
structure Columnwise (m : TableMap) (row : Row) : Prop where
  made_iff : ∀ c, (∃ e c', (row.toEntity m).perform c = (.ok e, c')) ↔ Readable m row
  fields : ∀ c e c', (row.toEntity m).perform c = (.ok e, c') → e.type = m.type ∧
    ∃ blank, Entity.blank m.type = .ok blank ∧
      ∀ p, e.attribute? p = ((own? m row p).bind (accepted? m p)).or (blank.attribute? p)
  permuted : ∀ row' : Row, row.Perm row' → ∀ c e c₁, (row.toEntity m).perform c = (.ok e, c₁) →
    ∃ e' c₂, (row'.toEntity m).perform c = (.ok e', c₂) ∧ e'.type = e.type ∧
      ∀ p, e'.attribute? p = e.attribute? p
  independent : ∀ row' : Row, Labelled row' → ∀ c e c₁ c' e' c₂,
    (row.toEntity m).perform c = (.ok e, c₁) → (row'.toEntity m).perform c' = (.ok e', c₂) →
      ∀ p, own? m row' p = own? m row p → e'.attribute? p = e.attribute? p
  unmatched : toEntity m (row.filter fun entry => (m.property? entry.1).isSome) = row.toEntity m

theorem attribute?_toEntity (hnames : m.columns.names.Nodup) (hrow : Labelled row) {e : Entity}
    {c c' : Connection} (h : (row.toEntity m).perform c = (.ok e, c')) :
    e.type = m.type ∧ ∃ blank, Entity.blank m.type = .ok blank ∧
      ∀ p, e.attribute? p = ((own? m row p).bind (accepted? m p)).or (blank.attribute? p) := by
  obtain ⟨blank, c₀, hblank, hentered⟩ := of_perform_bind_ok h
  rw [perform_ofExcept] at hblank
  have hmade := (Prod.mk.inj hblank).1
  have htype : blank.type = m.type := by
    unfold Entity.blank at hmade
    split at hmade
    · contradiction
    · rw [← Except.ok.inj hmade]
  obtain ⟨hsame, hentered⟩ := attribute?_enterColumns hentered
  refine ⟨hsame.trans htype, blank, hmade, fun p => ?_⟩
  rw [hentered, hrow.getLast?_entered? hnames]

theorem own?_perm (hnames : m.columns.names.Nodup) (hrow : Labelled row) (hperm : row.Perm row') :
    own? m row' p = own? m row p := by
  have hrow' : Labelled row' := ((hperm.map Prod.fst).map Text.lower).nodup_iff.mp hrow
  ext v
  rw [hrow.own?_eq_some_iff hnames, hrow'.own?_eq_some_iff hnames]
  simp only [hperm.mem_iff]

/-- Two rows with the same value under the label of a property agree on it. -/
theorem attribute?_of_own? (hnames : m.columns.names.Nodup) (hrow : Labelled row)
    (hrow' : Labelled row') {e e' : Entity} {c c' c₁ c₂ : Connection}
    (h : (row.toEntity m).perform c = (.ok e, c₁)) (h' : (row'.toEntity m).perform c' = (.ok e', c₂))
    (hown : own? m row' p = own? m row p) : e'.attribute? p = e.attribute? p := by
  obtain ⟨-, blank, hblank, hfields⟩ := attribute?_toEntity hnames hrow h
  obtain ⟨-, blank', hblank', hfields'⟩ := attribute?_toEntity hnames hrow' h'
  rw [hfields, hfields', hown, Except.ok.inj (hblank.symm.trans hblank')]

/-- Whatever the map and whatever the values: as long as no two labels are equal without case, each column
of a row is on its own. -/
theorem columnwise (hnames : m.columns.names.Nodup) (hmade : m.type.construction ≠ .fails)
    (hrow : Labelled row) : Columnwise m row := by
  refine ⟨fun c => exists_toEntity_iff hmade, fun c e c' h => attribute?_toEntity hnames hrow h,
    fun row' hperm c e c₁ h => ?permuted, fun row' hrow' c e c₁ c' e' c₂ h h' p hown =>
      attribute?_of_own? hnames hrow hrow' h h' hown, toEntity_matched m row⟩
  -- There is an entity of the other row to compare with, as the same values need room in it.
  have hreadable : Readable m row' := fun entry hentry =>
    (exists_toEntity_iff hmade).mp ⟨e, c₁, h⟩ entry (hperm.mem_iff.mpr hentry)
  have hrow' : Labelled row' := ((hperm.map Prod.fst).map Text.lower).nodup_iff.mp hrow
  obtain ⟨e', c₂, h'⟩ := (exists_toEntity_iff hmade).mpr hreadable
  refine ⟨e', c₂, h', ?_, fun p =>
    attribute?_of_own? hnames hrow hrow' h h' (own?_perm hnames hrow hperm)⟩
  exact (attribute?_toEntity hnames hrow' h').1.trans (attribute?_toEntity hnames hrow h).1.symm

/-- Pens have a number and a name, which are columns of other names. -/
def penMap : TableMap :=
  { type :=
      { name := "Pen", marker := none
        lineage := [{ name := "Pen", defaults := [("name", .text "pen")], construction := none
                      fields := [("id", .type .int), ("name", .type .text)] }] }
    table := "pen", columns := [("id", "pen_id"), ("name", "label")]
    fields := [("id", .type .int), ("name", .type .text)] }

/-- The number is a text that holds none, and one of the labels leads nowhere. -/
def penRow : Row := [("PEN_ID", .text "seven"), ("price", .int 3), ("label", .text "quill")]

theorem columnwise_pen :
    penMap.columns.names.Nodup ∧ penMap.type.construction ≠ .fails ∧ Labelled penRow ∧
      Readable penMap penRow ∧ Columnwise penMap penRow := by
  have hnames : penMap.columns.names.Nodup := by decide
  have hmade : penMap.type.construction ≠ .fails := by decide
  have hrow : Labelled penRow := by unfold Labelled; decide +kernel
  have hcolumnwise := columnwise hnames hmade hrow
  have hreadable := (hcolumnwise.made_iff { dialect := .sqlite }).mp ⟨_, _, rfl⟩
  exact ⟨hnames, hmade, hrow, hreadable, hcolumnwise⟩

/-- A number that there is no room for. -/
def vastRow : Row := [("pen_id", .text "1E+999999999999999999"), ("label", .text "quill")]

/-- It fails the row, and the name is lost with it. -/
theorem vast_number_fails :
    penMap.columns.names.Nodup ∧ penMap.type.construction ≠ .fails ∧ Labelled vastRow ∧
      (toEntity penMap vastRow).perform { dialect := .sqlite } =
        (.error .outOfMemory, { dialect := .sqlite }) := by
  refine ⟨by decide, by decide, by unfold Labelled; decide +kernel, ?_⟩
  have hvast : Hint.convert (.type .int) (.text "1E+999999999999999999") = .error .outOfMemory :=
    Value.converted_eq_outOfMemory_iff.mpr ⟨by decide, by decide +kernel⟩
  have hproperty : penMap.property? "pen_id" = some "id" := rfl
  have hfirst (e : Entity) (c : Connection) :
      (enterColumn penMap e "pen_id" (.text "1E+999999999999999999")).perform c =
        (.error .outOfMemory, c) := by
    simp only [enterColumn, hproperty, perform_bind, perform_ofExcept,
      show penMap.requireField "id" = .ok (.type .int) from rfl, hvast, perform_throw]
  rw [toEntity, show Entity.blank penMap.type = .ok { type := penMap.type, attributes := [] } from rfl,
    perform_bind_ok (perform_ofExcept _ _)]
  exact perform_bind_error (hfirst _ _)

end Row

end RelationalMapper
