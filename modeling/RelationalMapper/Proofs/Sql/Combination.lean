import RelationalMapper.Proofs.Sql.Selection

/-! # Which rows a statement reaches

Conditions are met by combinations of rows, one of each table that a statement reads. A column has to
belong to exactly one of these tables. -/

namespace RelationalMapper.Sql

/-! ## Combinations of rows -/

/-- A table with the names of its columns. -/
structure Relation where
  columns : List String
  rows : List (List Value)
  deriving DecidableEq, Inhabited

abbrev Database := String → Relation

/-- A table under the name that it goes by, with one of its rows, or with none. -/
structure Occurrence where
  name : String
  relation : Relation
  row : Option Nat
  deriving DecidableEq, Inhabited

namespace Occurrence

/-- A row that there is not consists of nulls. -/
def value (o : Occurrence) (column : String) : Value :=
  ((o.relation.columns.zip ((o.row.bind (o.relation.rows[·]?)).getD [])).lookup column).getD .null

/-- The column belongs to this table. -/
def answers (o : Occurrence) (c : ColumnRef) : Bool :=
  c.qualifier.all (· = o.name) && decide (c.column ∈ o.relation.columns)

end Occurrence

abbrev Combination := List Occurrence

/-- The value of a column that belongs to exactly one table. -/
def Combination.value? (rows : Combination) (c : ColumnRef) : Option Value :=
  match rows.filter (·.answers c) with
  | [o] => some (o.value c.column)
  | _ => none

/-- What is a database's own: how it compares values that are not null, and the order of its rows. -/
structure Interpreter where
  compares : Comparison → Value → Value → Bool
  arranged : List Term → List Combination → List Combination
  perm (order : List Term) (rows : List Combination) : (arranged order rows).Perm rows

namespace Interpreter

variable (e : Interpreter)

/-- No comparison with null is met. -/
def meets (op : Comparison) (a b : Value) : Bool := a ≠ .null && b ≠ .null && e.compares op a b

/-- Whether a combination of rows meets a test, if the test can be made. -/
def checks? (rows : Combination) : Check → Option Bool
  | .compare left op (.column right) => do
    return e.meets op (← rows.value? left) (← rows.value? right)
  | .compare left op (.value v) => do return e.meets op (← rows.value? left) v
  | .isNull column => do return (← rows.value? column) = .null
  | .isNotNull column => do return (← rows.value? column) ≠ .null
  | .among column values => do
    let v ← rows.value? column
    return values.any (e.meets .equal v)

/-- Whether a combination of rows meets a condition. There are no negations, so that a test that is
neither met nor failed may count as failed. -/
def holds? (rows : Combination) : Formula → Option Bool
  | .check c => e.checks? rows c
  | .and left right => do return (← holds? rows left) && (← holds? rows right)
  | .or left right => do return (← holds? rows left) || (← holds? rows right)

end Interpreter

/-- What passes, if all of it can be asked. -/
def sifted? {α : Type} (f : α → Option Bool) : List α → Option (List α)
  | [] => some []
  | x :: xs => do
    let passes ← f x
    let rest ← sifted? f xs
    return if passes then x :: rest else rest

/-! ## What statements reach -/

/-- The rows of a table under a name. -/
def Relation.occurrences (r : Relation) (name : String) : List Occurrence :=
  (List.range r.rows.length).map fun i => ⟨name, r, some i⟩

namespace Interpreter

variable (e : Interpreter) (db : Database)

/-- The combinations with one more table. Those that find no partner are kept with nulls by a join from
their side. -/
def joined? (j : JoinClause) (blank : Combination) (rows : List Combination) :
    Option (List Combination) :=
  let nothing : Occurrence := ⟨j.name, db j.table, none⟩
  let partners := (db j.table).occurrences j.name
  match j.kind with
  | .inner | .left => do
    let groups ← rows.mapM fun c => do
      let found ← sifted? (fun o => e.holds? (c ++ [o]) j.condition) partners
      return if found = [] ∧ j.kind = .left then [c ++ [nothing]] else found.map (c ++ [·])
    return groups.flatten
  | .right => do
    let groups ← partners.mapM fun o => do
      let found ← sifted? (fun c => e.holds? (c ++ [o]) j.condition) rows
      return if found = [] then [blank ++ [o]] else found.map (· ++ [o])
    return groups.flatten

/-- The combinations with all tables, from left to right. -/
def allJoined? (blank : Combination) (rows : List Combination) :
    List JoinClause → Option (List Combination)
  | [] => some rows
  | j :: joins => do
    allJoined? (blank ++ [⟨j.name, db j.table, none⟩]) (← e.joined? db j blank rows) joins

/-- The combinations that a selection reads. No two tables go by one name. -/
def combinations? (s : Selection) : Option (List Combination) :=
  if (s.name :: s.joins.map (·.name)).Nodup then
    e.allJoined? db [⟨s.name, db s.table, none⟩]
      (((db s.table).occurrences s.name).map ([·])) s.joins
  else none

/-- The combinations that contribute to the result of a selection. -/
def selected? (s : Selection) : Option (List Combination) := do
  let rows ← e.combinations? db s
  let passing ← sifted? (fun c => s.condition.elim (some true) (e.holds? c)) rows
  let behind := (e.arranged s.order passing).drop s.skipped
  return s.kept.elim behind behind.take

/-- The rows of a table that an update or a deletion changes. -/
def changed? (t : Target) : Option (List Nat) :=
  sifted? (fun i => e.holds? [⟨t.table, db t.table, some i⟩] t.condition)
    (List.range (db t.table).rows.length)

end Interpreter

/-- The rows of the first table in some combinations. -/
def baseRows (rows : List Combination) : List Nat := rows.filterMap (·.head?.bind (·.row))

namespace Interpreter

variable (e : Interpreter) (db : Database) (sql : String) (params : List Value)

/-- The rows that an update or a deletion with its parameters changes, if it can be read. -/
def changedBy? : Option (List Nat) := (targetOf? sql params).bind (e.changed? db)

/-- The rows of its first table that a selection with its parameters finds others to join to. -/
def joinedBy? : Option (List Nat) :=
  ((selectionOf? sql params).bind (e.combinations? db)).map baseRows

/-- The rows of its first table that contribute to the result of a selection. -/
def selectedBy? : Option (List Nat) :=
  ((selectionOf? sql params).bind (e.selected? db)).map baseRows

end Interpreter

/-! ## Combinations that are read -/

section Sifted

variable {α β : Type} {f : α → Option Bool} {xs ys : List α} {x : α}

theorem of_sifted?_cons (h : sifted? f (x :: xs) = some ys) :
    ∃ passes rest, f x = some passes ∧ sifted? f xs = some rest ∧
      ys = if passes then x :: rest else rest := by
  obtain ⟨passes, hx, h⟩ := Option.bind_eq_some_iff.mp h
  obtain ⟨rest, hxs, h⟩ := Option.bind_eq_some_iff.mp h
  exact ⟨passes, rest, hx, hxs, (Option.some.inj h).symm⟩

/-- What is left passes. -/
theorem of_mem_sifted? (h : sifted? f xs = some ys) (hx : x ∈ ys) : x ∈ xs ∧ f x = some true := by
  induction xs generalizing ys with
  | nil =>
      rw [← Option.some.inj h] at hx
      contradiction
  | cons y xs ih =>
      obtain ⟨passes, rest, hy, hrest, rfl⟩ := of_sifted?_cons h
      cases passes with
      | false =>
          obtain ⟨hmem, hpass⟩ := ih hrest hx
          exact ⟨List.mem_cons_of_mem y hmem, hpass⟩
      | true =>
          rcases List.mem_cons.mp hx with rfl | hx
          · exact ⟨List.mem_cons_self, hy⟩
          · obtain ⟨hmem, hpass⟩ := ih hrest hx
            exact ⟨List.mem_cons_of_mem y hmem, hpass⟩

/-- All of it was asked, and what passes is left. -/
theorem mem_sifted? (h : sifted? f xs = some ys) (hx : x ∈ xs) :
    ∃ passes, f x = some passes ∧ (passes = true → x ∈ ys) := by
  induction xs generalizing ys with
  | nil => contradiction
  | cons y xs ih =>
      obtain ⟨passes, rest, hy, hrest, rfl⟩ := of_sifted?_cons h
      rcases List.mem_cons.mp hx with rfl | hx
      · refine ⟨passes, hy, fun hpass => ?_⟩
        rw [if_pos hpass]
        exact List.mem_cons_self
      · obtain ⟨kept, hkept, hmem⟩ := ih hrest hx
        refine ⟨kept, hkept, fun hpass => ?_⟩
        cases passes with
        | false => exact hmem hpass
        | true => exact List.mem_cons_of_mem y (hmem hpass)

theorem of_mem_mapM {g : α → Option β} {zs : List β} {z : β} (h : xs.mapM g = some zs)
    (hz : z ∈ zs) : ∃ x ∈ xs, g x = some z := by
  induction xs generalizing zs with
  | nil =>
      rw [List.mapM_nil] at h
      rw [← Option.some.inj h] at hz
      contradiction
  | cons x xs ih =>
      rw [List.mapM_cons] at h
      obtain ⟨z', hx, h⟩ := Option.bind_eq_some_iff.mp h
      obtain ⟨rest, hrest, h⟩ := Option.bind_eq_some_iff.mp h
      rw [← Option.some.inj h] at hz
      rcases List.mem_cons.mp hz with rfl | hz
      · exact ⟨x, List.mem_cons_self, hx⟩
      · obtain ⟨y, hy, hgy⟩ := ih hrest hz
        exact ⟨y, List.mem_cons_of_mem x hy, hgy⟩

end Sifted

/-- The table of an occurrence and its name. -/
def Occurrence.seat (o : Occurrence) : String × Relation := (o.name, o.relation)

namespace Interpreter

variable {e : Interpreter} {db : Database}

/-- A join adds one table to each combination. -/
theorem seats_joined? {j : JoinClause} {blank : Combination} {rows joined : List Combination}
    {seats : List (String × Relation)} (hblank : blank.map Occurrence.seat = seats)
    (hrows : ∀ c ∈ rows, c.map Occurrence.seat = seats)
    (h : e.joined? db j blank rows = some joined) :
    ∀ c ∈ joined, c.map Occurrence.seat = seats ++ [(j.name, db j.table)] := by
  have hadded {c : Combination} {o : Occurrence} (hc : c.map Occurrence.seat = seats)
      (ho : o.seat = (j.name, db j.table)) :
      (c ++ [o]).map Occurrence.seat = seats ++ [(j.name, db j.table)] := by
    simp [hc, ho]
  have hpartner : ∀ o ∈ (db j.table).occurrences j.name, o.seat = (j.name, db j.table) := by
    intro o ho
    obtain ⟨i, -, rfl⟩ := List.mem_map.mp ho
    rfl
  unfold joined? at h
  simp only at h
  split at h
  case h_3 =>
    obtain ⟨groups, hgroups, h⟩ := Option.bind_eq_some_iff.mp h
    intro c hc
    rw [← Option.some.inj h] at hc
    obtain ⟨group, hgroup, hc⟩ := List.mem_flatten.mp hc
    obtain ⟨o, ho, hfound⟩ := of_mem_mapM hgroups hgroup
    obtain ⟨found, hsifted, hgroup⟩ := Option.bind_eq_some_iff.mp hfound
    rw [← Option.some.inj hgroup] at hc
    split at hc
    · obtain rfl := List.mem_singleton.mp hc
      exact hadded hblank (hpartner o ho)
    · obtain ⟨r, hr, rfl⟩ := List.mem_map.mp hc
      exact hadded (hrows r (of_mem_sifted? hsifted hr).1) (hpartner o ho)
  all_goals
    obtain ⟨groups, hgroups, h⟩ := Option.bind_eq_some_iff.mp h
    intro c hc
    rw [← Option.some.inj h] at hc
    obtain ⟨group, hgroup, hc⟩ := List.mem_flatten.mp hc
    obtain ⟨r, hr, hfound⟩ := of_mem_mapM hgroups hgroup
    obtain ⟨found, hsifted, hgroup⟩ := Option.bind_eq_some_iff.mp hfound
    rw [← Option.some.inj hgroup] at hc
    split at hc
    · obtain rfl := List.mem_singleton.mp hc
      exact hadded (hrows r hr) rfl
    · obtain ⟨o, ho, rfl⟩ := List.mem_map.mp hc
      exact hadded (hrows r hr) (hpartner o (of_mem_sifted? hsifted ho).1)

theorem seats_allJoined? {joins : List JoinClause} {blank : Combination}
    {rows joined : List Combination} {seats : List (String × Relation)}
    (hblank : blank.map Occurrence.seat = seats)
    (hrows : ∀ c ∈ rows, c.map Occurrence.seat = seats)
    (h : e.allJoined? db blank rows joins = some joined) :
    ∀ c ∈ joined, c.map Occurrence.seat = seats ++ joins.map fun j => (j.name, db j.table) := by
  induction joins generalizing blank rows seats with
  | nil =>
      rw [← Option.some.inj h]
      simpa using hrows
  | cons j joins ih =>
      obtain ⟨next, hnext, h⟩ := Option.bind_eq_some_iff.mp h
      have hadded : List.map Occurrence.seat (blank ++ [⟨j.name, db j.table, none⟩]) =
          seats ++ [(j.name, db j.table)] := by simp [hblank, Occurrence.seat]
      have hseats := ih hadded (seats_joined? hblank hrows hnext) h
      simpa using hseats

/-- The tables of a selection stand in a combination as they stand in the selection. -/
theorem seats_combinations? {s : Selection} {rows : List Combination}
    (h : e.combinations? db s = some rows) :
    ∀ c ∈ rows, c.map Occurrence.seat =
      (s.name, db s.table) :: s.joins.map fun j => (j.name, db j.table) := by
  unfold combinations? at h
  split at h
  · have hfirst : List.map Occurrence.seat [⟨s.name, db s.table, none⟩] =
        [(s.name, db s.table)] := rfl
    refine seats_allJoined? hfirst ?_ h
    intro c hc
    simp only [Relation.occurrences, List.map_map, List.mem_map, Function.comp_apply] at hc
    obtain ⟨i, -, rfl⟩ := hc
    rfl
  · contradiction

end Interpreter

/-! ## One table among others -/

section Base

variable {o o' : Occurrence} {rest : Combination}

theorem Combination.of_value?_eq {rows : Combination} {c : ColumnRef} {v : Value}
    (h : rows.value? c = some v) : ∃ o, rows.filter (·.answers c) = [o] ∧ v = o.value c.column := by
  unfold value? at h
  split at h
  · rename_i o hfilter
    exact ⟨o, hfilter, (Option.some.inj h).symm⟩
  · contradiction

/-- A column of one table has the same value among other tables, if it is found at all. -/
theorem Combination.value?_eq (hrelation : o'.relation = o.relation) (hrow : o'.row = o.row)
    (hrest : ∀ p ∈ rest, p.name ≠ o.name) {c : ColumnRef} {v v' : Value}
    (h : Combination.value? [o] c = some v) (h' : Combination.value? (o' :: rest) c = some v') :
    v' = v := by
  obtain ⟨p, hp, rfl⟩ := of_value?_eq h
  obtain ⟨p', hp', rfl⟩ := of_value?_eq h'
  have hmem : p ∈ [o].filter (·.answers c) := by rw [hp]; exact List.mem_cons_self
  obtain ⟨hpo, hanswers⟩ := List.mem_filter.mp hmem
  obtain rfl := List.mem_singleton.mp hpo
  have hmem' : p' ∈ (o' :: rest).filter (·.answers c) := by rw [hp']; exact List.mem_cons_self
  obtain ⟨hpo', hanswers'⟩ := List.mem_filter.mp hmem'
  simp only [Occurrence.answers, Bool.and_eq_true, decide_eq_true_eq] at hanswers hanswers'
  have heq : p' = o' := by
    cases hqualifier : c.qualifier with
    | none =>
        -- the column belongs to this table, so that it cannot belong to another one
        have hown : o'.answers c = true := by
          simp [Occurrence.answers, hqualifier, hrelation, hanswers.2]
        rw [List.filter_cons, if_pos hown] at hp'
        exact (List.cons.inj hp').1.symm
    | some name =>
        rcases List.mem_cons.mp hpo' with heq | hother
        · exact heq
        · simp only [hqualifier, Option.all_some, decide_eq_true_eq] at hanswers hanswers'
          exact absurd (hanswers'.1.symm.trans hanswers.1) (hrest p' hother)
  rw [heq, Occurrence.value, Occurrence.value, hrelation, hrow]

variable {e : Interpreter}

theorem Interpreter.checks?_eq (hrelation : o'.relation = o.relation) (hrow : o'.row = o.row)
    (hrest : ∀ p ∈ rest, p.name ≠ o.name) {c : Check} {a b : Bool}
    (h : e.checks? [o] c = some a) (h' : e.checks? (o' :: rest) c = some b) : b = a := by
  have hvalue {c : ColumnRef} {v v' : Value} (h : Combination.value? [o] c = some v)
      (h' : Combination.value? (o' :: rest) c = some v') : v' = v :=
    Combination.value?_eq hrelation hrow hrest h h'
  cases c with
  | compare left op right =>
      cases right with
      | column right =>
          obtain ⟨v, hv, h⟩ := Option.bind_eq_some_iff.mp h
          obtain ⟨w, hw, h⟩ := Option.bind_eq_some_iff.mp h
          obtain ⟨v', hv', h'⟩ := Option.bind_eq_some_iff.mp h'
          obtain ⟨w', hw', h'⟩ := Option.bind_eq_some_iff.mp h'
          rw [← Option.some.inj h, ← Option.some.inj h', hvalue hv hv', hvalue hw hw']
      | value w =>
          obtain ⟨v, hv, h⟩ := Option.bind_eq_some_iff.mp h
          obtain ⟨v', hv', h'⟩ := Option.bind_eq_some_iff.mp h'
          rw [← Option.some.inj h, ← Option.some.inj h', hvalue hv hv']
  | isNull column | isNotNull column | among column values =>
      obtain ⟨v, hv, h⟩ := Option.bind_eq_some_iff.mp h
      obtain ⟨v', hv', h'⟩ := Option.bind_eq_some_iff.mp h'
      rw [← Option.some.inj h, ← Option.some.inj h', hvalue hv hv']

/-- A condition that can be asked of one table is met among other tables as it is alone, if it can be
asked there. -/
theorem Interpreter.holds?_eq (hrelation : o'.relation = o.relation) (hrow : o'.row = o.row)
    (hrest : ∀ p ∈ rest, p.name ≠ o.name) {f : Formula} {a b : Bool}
    (h : e.holds? [o] f = some a) (h' : e.holds? (o' :: rest) f = some b) : b = a := by
  induction f generalizing a b with
  | check c => exact checks?_eq hrelation hrow hrest h h'
  | and left right ihl ihr | or left right ihl ihr =>
      obtain ⟨l, hl, h⟩ := Option.bind_eq_some_iff.mp h
      obtain ⟨r, hr, h⟩ := Option.bind_eq_some_iff.mp h
      obtain ⟨l', hl', h'⟩ := Option.bind_eq_some_iff.mp h'
      obtain ⟨r', hr', h'⟩ := Option.bind_eq_some_iff.mp h'
      rw [← Option.some.inj h, ← Option.some.inj h', ihl hl hl', ihr hr hr']

end Base

/-! ## What is changed is selected -/

theorem mem_baseRows {rows : List Combination} {i : Nat} :
    i ∈ baseRows rows ↔ ∃ o rest, o :: rest ∈ rows ∧ o.row = some i := by
  constructor
  · intro h
    obtain ⟨c, hc, hi⟩ := List.mem_filterMap.mp h
    cases c with
    | nil => contradiction
    | cons o rest => exact ⟨o, rest, hc, hi⟩
  · rintro ⟨o, rest, hc, hi⟩
    exact List.mem_filterMap.mpr ⟨o :: rest, hc, hi⟩

/-- A row that meets the condition on its own, and that the joins keep, contributes to a selection of
all rows, if no other table goes by the name of its table. -/
theorem Interpreter.mem_selected? {e : Interpreter} {db : Database} {s : Selection} {t : Target}
    (htable : s.table = t.table) (hcondition : s.condition = some t.condition)
    (hskipped : s.skipped = 0) (hkept : s.kept = none) (hnames : ∀ j ∈ s.joins, j.name ≠ s.table)
    {changed : List Nat} {rows selected : List Combination}
    (hchanged : e.changed? db t = some changed) (hrows : e.combinations? db s = some rows)
    (hselected : e.selected? db s = some selected) {i : Nat} (hi : i ∈ changed)
    (hjoined : i ∈ baseRows rows) : i ∈ baseRows selected := by
  obtain ⟨o, rest, hc, hrow⟩ := mem_baseRows.mp hjoined
  have hseats := seats_combinations? hrows _ hc
  simp only [List.map_cons, List.cons.injEq, Occurrence.seat, Prod.mk.injEq] at hseats
  obtain ⟨⟨-, hrelation⟩, hothers⟩ := hseats
  have hrest : ∀ p ∈ rest, p.name ≠ t.table := by
    intro p hp
    have hseat := List.mem_map_of_mem (f := Occurrence.seat) hp
    simp only [Occurrence.seat] at hseat
    rw [hothers] at hseat
    obtain ⟨j, hj, hjp⟩ := List.mem_map.mp hseat
    rw [← (Prod.mk.inj hjp).1, ← htable]
    exact hnames j hj
  obtain ⟨-, hmeets⟩ := of_mem_sifted? hchanged hi
  rw [selected?, hrows, Option.bind_eq_bind, Option.bind_some] at hselected
  obtain ⟨passing, hpassing, hpage⟩ := Option.bind_eq_some_iff.mp hselected
  obtain ⟨passes, hasked, hpasses⟩ := mem_sifted? hpassing hc
  rw [hcondition, Option.elim_some] at hasked
  have hpass : passes = true :=
    holds?_eq (hrelation.trans (by rw [htable])) hrow hrest hmeets hasked
  have hall : e.arranged s.order passing = selected := by
    simpa [hskipped, hkept] using hpage
  refine mem_baseRows.mpr ⟨o, rest, ?_, hrow⟩
  rw [← hall]
  exact (e.perm s.order passing).mem_iff.mpr (hpasses hpass)

end RelationalMapper.Sql
