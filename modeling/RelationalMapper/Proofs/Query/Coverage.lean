import RelationalMapper.Proofs.Query.Readings
import RelationalMapper.Proofs.Sql.Combination

/-! # What is written is selected

An update or a deletion has the condition of its query, but neither the joined tables nor the page. Of
the rows that the joins keep it changes none that the query would not select without a limit and an
offset. -/

namespace RelationalMapper

open Sql

namespace Query

/-! ## What is changed is selected -/

/-- Of the rows that its joins keep, the selection leaves out none that the other statement changes. -/
def Covers (e : Interpreter) (db : Database) (select write : Compiled) : Prop :=
  ∀ changed joined selected, e.changedBy? db write.sql write.params = some changed →
    e.joinedBy? db select.sql select.params = some joined →
    e.selectedBy? db select.sql select.params = some selected →
    ∀ i ∈ changed, i ∈ joined → i ∈ selected

/-- The query without its limit and its offset. -/
def unpaged (q : Query) : Query := { q with window := {} }

/-- The call executes this statement. -/
def Mutation.Executes (m : Mutation) (s : Session) (q : Query) (st : Compiled) : Prop :=
  m.action.perform (s, q) =
    let left := (Session.onConnection
      (Connection.execute st.sql st.params m.operation)).perform s
    (left.1, (left.2, { q with executed := true }))

theorem covers_of_compile {q : Query} (hjoins : JoinsSpaced q.joins)
    (hparts : ∀ expression, .computed expression ∉ q.projection)
    (hnames : ∀ j ∈ q.joins, j.aliasName ≠ q.base.table) {m : Mutation} {st select : Compiled}
    (hwrite : m.compile q = .ok st) (hselect : q.unpaged.selectStatement = .ok select)
    (e : Interpreter) (db : Database) : Covers e db select st := by
  intro changed joined selected hchanged hjoined hselected i hi hkept
  obtain ⟨terms, hterms⟩ := q.exists_conditionTerms
  obtain ⟨t, ht, hchanged⟩ := Option.bind_eq_some_iff.mp hchanged
  obtain ⟨rows, hrows, rfl⟩ := Option.map_eq_some_iff.mp hjoined
  obtain ⟨s, hs, hrows⟩ := Option.bind_eq_some_iff.mp hrows
  obtain ⟨passing, hpassing, rfl⟩ := Option.map_eq_some_iff.mp hselected
  rw [hs, Option.bind_some] at hpassing
  rw [targetOf?_compile hwrite hterms] at ht
  obtain ⟨f, hformula, rfl⟩ := Option.map_eq_some_iff.mp ht
  obtain ⟨⟨htable, hjoined⟩, hcondition, hskipped, hall⟩ :=
    of_selectionOf? (q := q.unpaged) hjoins hparts rfl hselect hterms hs
  have hothers : ∀ j ∈ s.joins, j.name ≠ s.table := by
    intro j hj
    have hname : j.name ∈ q.joins.map (·.aliasName) := hjoined ▸ List.mem_map_of_mem hj
    obtain ⟨j', hj', heq⟩ := List.mem_map.mp hname
    rw [← heq, htable]
    exact hnames j' hj'
  exact Interpreter.mem_selected? htable (hcondition.trans hformula) hskipped hall hothers hchanged
    hrows hpassing hi hkept

/-- An update or a deletion is refused, or of the rows that the joins keep it changes only ones that
the query selects without a limit and an offset. -/
theorem Reached.covered {admits : FluentCall → Except Failure Unit → Prop} {q : Query}
    (hq : q.Reached admits) (hparts : ∀ expression, .computed expression ∉ q.projection)
    (hnames : ∀ j ∈ q.joins, j.aliasName ≠ q.base.table) (m : Mutation) (s : Session) :
    m.Refused s q ∨ ∃ st, m.Executes s q st ∧
      ∀ select, q.unpaged.selectStatement = .ok select →
        ∀ (e : Interpreter) (db : Database), Covers e db select st := by
  cases hexecuted : q.executed with
  | true => exact .inl (m.refused_of_executed s hexecuted)
  | false =>
      have hrun := m.perform_action s hexecuted
      rcases m.compile_cases q with ⟨cause, hcompile⟩ | ⟨-, params, hcompile⟩
      · exact .inl ⟨cause, by rw [hrun, hcompile]⟩
      · refine .inr ⟨_, by rw [Mutation.Executes, hrun, hcompile], fun select hselect e db => ?_⟩
        exact covers_of_compile hq.joinsSpaced hparts hnames hcompile hselect e db

/-! ## What is changed beyond that -/

/-- Whatever comes out of the calls. -/
def anyOutcome (_ : FluentCall) (_ : Except Failure Unit) : Prop := True

/-- The query behind some calls. -/
def after (q : Query) (calls : List FluentCall) : Query :=
  calls.foldl (fun q call => (call.action.perform (default, q)).2.2) q

theorem Reached.after {q : Query} (h : q.Reached anyOutcome) (calls : List FluentCall) :
    (q.after calls).Reached anyOutcome := by
  induction calls generalizing q with
  | nil => exact h
  | cons call calls ih => exact ih (h.call (r := (call.action.perform (default, q)).1) rfl trivial)

/-- A query on items. -/
def items (calls : List FluentCall) : Query := (start .sqlite TableMap.itemMap).after calls

theorem reached_items (calls : List FluentCall) : (items calls).Reached anyOutcome :=
  Reached.after (.start (show (Session.query TableMap.itemClass).perform
    { connection := { dialect := .sqlite } } = _ from rfl)) calls

/-- A note on an item. -/
def noteClass : EntityClass :=
  { name := "Note", marker := some "note"
    lineage := [{ name := "Note", defaults := [], construction := none
                  fields := [("owner", .annotated (.type .int) [.column { name := "owner" }]),
                    ("name", .annotated (.type .text) [.column { name := "name" }])] }] }

/-- The items with their notes under a name. -/
def withNotes (name : String) : FluentCall :=
  .join .inner noteClass (some name) [.test ⟨"id", .equal, "owner", none⟩]

def numbered : FluentCall := .filter [.test (.among "id" (.list [.int 1, .int 2]) none)]

def pens (entity : Option EntityClass) : FluentCall :=
  .filter [.test (.compare "name" .equal (.text "pen") entity)]

/-- A database that tells values apart and keeps its rows in order. -/
def plainInterpreter : Interpreter where
  compares op a b := op = .equal && a = b
  arranged _ rows := rows
  perm _ _ := .refl _

/-- Two items of one name, and a note of another name on the first one. -/
def stationery : Database := fun table =>
  if table = "item" then ⟨["id", "name"], [[.int 1, .text "pen"], [.int 2, .text "pen"]]⟩
  else ⟨["owner", "name"], [[.int 1, .text "ink"]]⟩

def notedItems : Query := items [numbered, withNotes "n", .limit (.int 1)]

/-- The deletion takes the second item as well, which has no note. -/
theorem covered_notedItems : (∀ j ∈ notedItems.joins, j.aliasName ≠ notedItems.base.table) ∧
    (Mutation.delete.Refused default notedItems ∨ ∃ st,
      Mutation.delete.Executes default notedItems st ∧
        ∀ select, notedItems.unpaged.selectStatement = .ok select →
          Covers plainInterpreter stationery select st) ∧
    ∃ st select, Mutation.delete.compile notedItems = .ok st ∧
      notedItems.unpaged.selectStatement = .ok select ∧
      plainInterpreter.changedBy? stationery st.sql st.params = some [0, 1] ∧
      plainInterpreter.joinedBy? stationery select.sql select.params = some [0] ∧
      plainInterpreter.selectedBy? stationery select.sql select.params = some [0] := by
  have hall : notedItems.projection = [] := List.isEmpty_iff.mp (by decide +kernel)
  have hparts : ∀ expression, .computed expression ∉ notedItems.projection := by simp [hall]
  have hnames : ∀ j ∈ notedItems.joins, j.aliasName ≠ notedItems.base.table := by decide +kernel
  refine ⟨hnames, ?_, _, _, rfl, rfl, by decide +kernel, by decide +kernel, by decide +kernel⟩
  rcases Reached.covered (reached_items _) hparts hnames .delete default with
    hrefused | ⟨st, hexecutes, hcovers⟩
  · exact .inl hrefused
  · exact .inr ⟨st, hexecutes, fun select hselect =>
      hcovers select hselect plainInterpreter stationery⟩

/-- The deletion takes a row that does not contribute to the selection of the same query, which has no
result at all if one of its columns cannot be told. -/
def Oversteps (e : Interpreter) (db : Database) (q : Query) : Prop :=
  q.Reached anyOutcome ∧ ∃ st select changed, Mutation.delete.compile q = .ok st ∧
    q.selectStatement.toOption = some select ∧ e.changedBy? db st.sql st.params = some changed ∧
    ∃ i ∈ changed, i ∉ (e.selectedBy? db select.sql select.params).getD []

/-- A limit, an offset, a join that leaves a row out, a column of two tables, a joined table under the
name of the first one, and a computed part that ends the statement. -/
theorem overstepping_items :
    Oversteps plainInterpreter stationery (items [pens none, .limit (.int 1)]) ∧
    Oversteps plainInterpreter stationery (items [pens none, .offset (.int 1)]) ∧
    Oversteps plainInterpreter stationery (items [numbered, withNotes "n"]) ∧
    Oversteps plainInterpreter stationery (items [pens none, withNotes "n"]) ∧
    Oversteps plainInterpreter stationery
      (items [.setAlias (some "i"), withNotes "item", pens (some noteClass)]) ∧
    Oversteps plainInterpreter stationery
      (items [.filter [.test (.compare "name" .notEqual .null none)],
        .select [.part (.computed "\"id\" FROM \"item\" WHERE \"id\" IS NULL --")]]) := by
  refine ⟨⟨reached_items _, ?_⟩, ⟨reached_items _, ?_⟩, ⟨reached_items _, ?_⟩,
    ⟨reached_items _, ?_⟩, ⟨reached_items _, ?_⟩, reached_items _, ?_⟩
  · exact ⟨_, ⟨"SELECT * FROM \"item\" WHERE \"name\" = ? LIMIT 1", [.text "pen"]⟩, [0, 1], rfl,
      by decide +kernel, by decide +kernel, 1, by decide, by decide +kernel⟩
  · exact ⟨_, ⟨"SELECT * FROM \"item\" WHERE \"name\" = ? LIMIT -1 OFFSET 1", [.text "pen"]⟩,
      [0, 1], rfl, by decide +kernel, by decide +kernel, 0, by decide, by decide +kernel⟩
  · exact ⟨_, _, [0, 1], rfl, rfl, by decide +kernel, 1, by decide, by decide +kernel⟩
  · exact ⟨_, _, [0, 1], rfl, rfl, by decide +kernel, 0, by decide, by decide +kernel⟩
  · exact ⟨_, _, [0, 1], rfl, rfl, by decide +kernel, 0, by decide, by decide +kernel⟩
  · exact ⟨_, _, [0, 1], rfl, rfl, by decide +kernel, 0, by decide, by decide +kernel⟩

end Query

end RelationalMapper
