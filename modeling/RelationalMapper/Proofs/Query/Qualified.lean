import RelationalMapper.Proofs.Query.Clauses
import RelationalMapper.Proofs.Query.Coverage
import RelationalMapper.Proofs.Query.History

/-! # Which tables an update or a deletion names

An update or a deletion introduces its table under its own name and no other one. Its condition was
stated for the selection of the same query, which has aliases and joined tables: a test that was made
under an alias names a table that is not there. -/

namespace RelationalMapper

open Sql

namespace Sql

/-- The name that a table goes by: its alias, if it has one. -/
def sourceName? : List Word → Option String
  | .name _ :: .name aliasName :: _ => some aliasName
  | .name table :: _ => some table
  | _ => none

/-- The name that an update or a deletion introduces. -/
def targetName? : List Word → Option String
  | .symbol "UPDATE" :: rest => sourceName? rest
  | .symbol "DELETE" :: .symbol "FROM" :: rest => sourceName? rest
  | _ => none

/-- Every name in front of a column is the one that the update or the deletion introduces. -/
def NamesTarget (ws : List Word) : Prop := qualifiers ws ⊆ (targetName? ws).toList

end Sql

namespace Query

variable {q : Query} {m : Mutation} {st : Compiled}

/-! ## Statements that write -/

theorem qualifiers_assignments (q : Query) (given : List (String × Value)) :
    qualifiers ([.symbol ","].intercalate
      (given.map fun a => [.name (q.base.columnName a.1), .symbol "=", .mark])) = [] := by
  rw [qualifiers_intercalate (by decide)]
  refine List.flatMap_eq_nil_iff.mpr fun row hrow => ?_
  obtain ⟨a, -, rfl⟩ := List.mem_map.mp hrow
  rw [qualifiers_name_cons (by simp)]
  rfl

/-- In front of the condition the base table is introduced, and no table is named. -/
theorem targetName?_compile (h : m.compile q = .ok st) :
    targetName? (Sql.words st.sql) = some q.base.table := by
  rw [Mutation.words_compile h]
  cases m <;> rfl

theorem qualifiers_leadWords (q : Query) (m : Mutation) : qualifiers (m.leadWords q) = [] := by
  cases m with
  | delete => rfl
  | update assignments => exact q.qualifiers_assignments (assignments.getD [])

/-- What writes names the tables of its tests. -/
theorem namesTarget_compile (h : m.compile q = .ok st) :
    NamesTarget (Sql.words st.sql) ↔
      ∀ t ∈ q.condition.tests, ∀ name ∈ t.column.qualifier, name = q.base.table := by
  have hnames : qualifiers (Sql.words st.sql) =
      q.condition.tests.flatMap (·.column.qualifier.toList) := by
    rw [Mutation.words_compile h, qualifiers_append (by simp), q.qualifiers_leadWords m,
      List.nil_append, qualifiers_symbol_cons, q.qualifiers_conditionWords]
  rw [NamesTarget, hnames, targetName?_compile h]
  constructor
  · intro hsubset t ht name hname
    have hmem := hsubset (List.mem_flatMap.mpr ⟨t, ht, Option.mem_toList.mpr hname⟩)
    simpa using hmem
  · intro hall name hname
    obtain ⟨t, ht, hname⟩ := List.mem_flatMap.mp hname
    simpa using hall t ht name (Option.mem_toList.mp hname)

/-! ## Histories -/

/-- An update or a deletion is refused, or it introduces the base table alone. It names this table and
no other one just if every test that was accepted was, at that time, of a table without an alias or
under the name of the base table. -/
theorem History.names_target {steps : List Step} (h : History steps q) (m : Mutation)
    (s : Session) : m.Refused s q ∨ ∃ st, m.compile q = .ok st ∧ m.Executes s q st ∧
      targetName? (Sql.words st.sql) = some q.base.table ∧
      (NamesTarget (Sql.words st.sql) ↔
        ∀ step ∈ steps, ∀ t ∈ Condition.tests (step.request.asked step.before),
          ∀ name ∈ t.column.qualifier, name = q.base.table) := by
  cases hexecuted : q.executed with
  | true => exact .inl (m.refused_of_executed s hexecuted)
  | false =>
      have hrun := m.perform_action s hexecuted
      rcases m.compile_cases q with ⟨cause, hcompile⟩ | ⟨-, params, hcompile⟩
      · exact .inl ⟨cause, by rw [hrun, hcompile]⟩
      · refine .inr ⟨_, hcompile, by rw [Mutation.Executes, hrun, hcompile],
          targetName?_compile hcompile, ?_⟩
        rw [namesTarget_compile hcompile, h.tests_eq]
        simp only [List.mem_flatMap, forall_exists_index, and_imp]
        exact ⟨fun hall step hstep t ht => hall t step hstep ht,
          fun hall t step hstep ht => hall step hstep t ht⟩

/-- The items with their notes, of which a test is made before the items get an alias. -/
def pensWithNotes : List Request :=
  [.build (withNotes "n"), .build (pens none), .build (.setAlias (some "i"))]

/-- The deletion does without the joined table and the alias, which no test names. -/
theorem names_target_pens :
    (Mutation.delete.Refused default (itemsAfter pensWithNotes) ∨ ∃ st,
      Mutation.delete.compile (itemsAfter pensWithNotes) = .ok st ∧
        NamesTarget (Sql.words st.sql)) ∧
    ∃ st, Mutation.delete.compile (itemsAfter pensWithNotes) = .ok st ∧
      st.sql = "DELETE FROM \"item\" WHERE \"name\" = ?" := by
  have hplain : ∀ step ∈ steps pensWithNotes (default, start .sqlite TableMap.itemMap),
      ∀ t ∈ Condition.tests (step.request.asked step.before), t.column.qualifier = none := by
    decide +kernel
  refine ⟨?_, _, rfl, by decide +kernel⟩
  rcases (history_itemsAfter pensWithNotes).names_target .delete default with
    hrefused | ⟨st, hcompile, -, -, hnames⟩
  · exact .inl hrefused
  · refine .inr ⟨st, hcompile, hnames.mpr fun step hstep t ht name hname => ?_⟩
    rw [hplain step hstep t ht] at hname
    contradiction

/-- Behind an alias, and behind a join, a test names a table that the deletion does not introduce, and
the deletion is not refused. -/
theorem stray_names :
    (∃ st, Mutation.delete.compile (itemsAfter [.build (.setAlias (some "i")), .build (pens none)]) =
        .ok st ∧ st.sql = "DELETE FROM \"item\" WHERE \"i\".\"name\" = ?" ∧
      ¬ NamesTarget (Sql.words st.sql) ∧
      Mutation.delete.Executes default
        (itemsAfter [.build (.setAlias (some "i")), .build (pens none)]) st) ∧
    ∃ st, Mutation.delete.compile
        (itemsAfter [.build (withNotes "n"), .build (pens (some noteClass))]) = .ok st ∧
      st.sql = "DELETE FROM \"item\" WHERE \"n\".\"name\" = ?" ∧
      ¬ NamesTarget (Sql.words st.sql) ∧
      Mutation.delete.Executes default
        (itemsAfter [.build (withNotes "n"), .build (pens (some noteClass))]) st := by
  refine ⟨⟨_, rfl, by decide +kernel, ?_, rfl⟩, _, rfl, by decide +kernel, ?_, rfl⟩
  all_goals
    unfold NamesTarget
    rw [List.subset_def]
    decide +kernel

end Query

end RelationalMapper
