import RelationalMapper.Proofs.Action
import RelationalMapper.Proofs.Bulk.Insertion
import RelationalMapper.Proofs.Mapping.Inverse
import RelationalMapper.Row

/-! # Rows that are read into entities

A row whose labels are columns of the map gives every property the value that its field takes, in
whatever order the columns come. -/

namespace RelationalMapper

open RelationalMapper.Action

/-! ## Entering values -/

namespace Row

/-- The field of the property, if it takes the value, has it. -/
def Entered (m : TableMap) (source : String → Value) (p : String) (e : Entity) : Prop :=
  ∀ hint w, m.fields.get? p = some hint → hint.convert (source p) = .ok w → e.get p = w

/-- A row of values under columns of their properties, each of which is taken or refused. -/
def Draws (m : TableMap) (source : String → Value) (row : Row) : Prop :=
  ∀ entry ∈ row, ∃ p, (p, entry.1) ∈ m.columns ∧ entry.2 = source p ∧
    ∀ hint, m.fields.get? p = some hint → hint.convert (source p) ≠ .error .outOfMemory

variable {m : TableMap} {source : String → Value}

/-- A value enters its own field and no other one. -/
theorem perform_enterColumn {label p : String} {hint : Hint} (hproperty : m.property? label = some p)
    (hfield : m.fields.get? p = some hint)
    (hroom : hint.convert (source p) ≠ .error .outOfMemory) (e : Entity) (c : Connection) :
    ∃ e' c', (enterColumn m e label (source p)).perform c = (.ok e', c') ∧ e'.type = e.type ∧
      Entered m source p e' ∧ ∀ other, Entered m source other e → Entered m source other e' := by
  have hrequired : m.requireField p = .ok hint := by simp [TableMap.requireField, hfield]
  simp only [enterColumn, hproperty, perform_bind, perform_ofExcept, hrequired]
  cases hconvert : hint.convert (source p) with
  | ok w =>
      have hentered : Entered m source p (e.set p w) := by
        intro hint' w' hfield' hconvert'
        obtain rfl := Option.some.inj (hfield.symm.trans hfield')
        obtain rfl := Except.ok.inj (hconvert.symm.trans hconvert')
        exact e.get_set_self p w
      refine ⟨e.set p w, c, rfl, rfl, hentered, fun other hother => ?_⟩
      by_cases hne : other = p
      · exact hne ▸ hentered
      · intro hint' w' hfield' hconvert'
        rw [e.get_set_of_ne w hne]
        exact hother hint' w' hfield' hconvert'
  | error f =>
      have hrefused : Entered m source p e := by
        intro hint' w' hfield' hconvert'
        obtain rfl := Option.some.inj (hfield.symm.trans hfield')
        rw [hconvert] at hconvert'
        contradiction
      cases f
      case outOfMemory => exact absurd hconvert hroom
      all_goals exact ⟨e, _, rfl, rfl, hrefused, fun _ hother => hother⟩

/-- What was entered is not lost again, and every label of the row is entered. -/
theorem perform_enterColumns (hm : m.Coherent) (hcolumns : m.columns.values.Nodup) {row : Row}
    (hrow : Draws m source row) (e : Entity) (c : Connection) :
    ∃ e' c', (row.foldlM (fun e (label, value) => enterColumn m e label value) e).perform c =
        (.ok e', c') ∧ e'.type = e.type ∧
      (∀ p column, (p, column) ∈ m.columns → column ∈ row.names → Entered m source p e') ∧
      ∀ other, Entered m source other e → Entered m source other e' := by
  induction row generalizing e c with
  | nil => exact ⟨e, c, rfl, rfl, by simp [Entries.names], fun _ h => h⟩
  | cons entry row ih =>
      obtain ⟨label, value⟩ := entry
      obtain ⟨p, hmem, rfl, hroom⟩ := hrow _ List.mem_cons_self
      have hproperty := m.property?_of_mem hcolumns hmem
      obtain ⟨hint, hfield⟩ := hm.field_of_column p
        ((Entries.has_iff_mem_names _ _).mpr (List.mem_map.mpr ⟨_, hmem, rfl⟩))
      obtain ⟨e₁, c₁, hfirst, htype₁, hentered, hkept₁⟩ :=
        perform_enterColumn hproperty hfield (hroom hint hfield) e c
      obtain ⟨e', c', hrest, htype, hall, hkept⟩ :=
        ih (fun entry h => hrow entry (List.mem_cons_of_mem _ h)) e₁ c₁
      refine ⟨e', c', ?_, htype.trans htype₁, fun other column hother hnames => ?_,
        fun other h => hkept other (hkept₁ other h)⟩
      · rw [List.foldlM_cons, perform_bind_ok hfirst, hrest]
      · rcases List.mem_cons.mp hnames with rfl | hnames
        · have hsame := (m.property?_of_mem hcolumns hother).symm.trans hproperty
          obtain rfl := Option.some.inj hsame
          exact hkept _ hentered
        · exact hall other column hother hnames

/-- A row gives an instance, unless the class makes none. -/
theorem perform_toEntity (hm : m.Coherent) (hcolumns : m.columns.values.Nodup)
    (hmade : m.type.construction ≠ .fails) {row : Row} (hrow : Draws m source row)
    (c : Connection) :
    ∃ e c', (row.toEntity m).perform c = (.ok e, c') ∧ e.type = m.type ∧
      ∀ p column, (p, column) ∈ m.columns → column ∈ row.names → Entered m source p e := by
  have hblank : Entity.blank m.type = .ok { type := m.type, attributes := [] } := by
    unfold Entity.blank
    split
    · contradiction
    · rfl
  obtain ⟨e, c', hrun, htype, hall, -⟩ :=
    perform_enterColumns hm hcolumns hrow { type := m.type, attributes := [] } c
  refine ⟨e, c', ?_, htype, hall⟩
  rw [toEntity, hblank, perform_bind, perform_ofExcept]
  exact hrun

end Row

end RelationalMapper
