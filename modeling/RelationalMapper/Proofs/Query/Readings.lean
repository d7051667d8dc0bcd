import RelationalMapper.Proofs.Query.Alignment
import RelationalMapper.Proofs.Query.Guard
import RelationalMapper.Proofs.Query.Words
import RelationalMapper.Proofs.Sql.Selection

/-! # Statements of a query as they are read

An update or a deletion is read as the base table with the condition of its query, and a selection of
all rows as the same table, with the same condition, and the joined tables by their names. -/

namespace RelationalMapper

open Sql

namespace Query

/-! ## Updates and deletions as they are read -/

/-- The condition with its values. -/
def conditionTerms? (q : Query) : Option (List Term) := filled q.conditionWords q.params

theorem exists_conditionTerms (q : Query) : ∃ terms, q.conditionTerms? = some terms :=
  exists_filled q.count_mark_conditionWords

/-- No keyword that divides a selection behind its condition is one of the terms. -/
theorem not_mem_conditionTerms {q : Query} {terms : List Term} (h : q.conditionTerms? = some terms) :
    ∀ t ∈ terms, t ∉ conditionEnds := by
  intro t ht hend
  obtain ⟨k, hk, rfl⟩ := List.mem_map.mp hend
  exact q.avoids_conditionWords _ (mem_of_filled h ht) (List.mem_map_of_mem hk)

theorem reads_assignments (q : Query) (given : List (String × Value)) :
    Reads q.dialect.quotes
      (Text.joined ", " (given.map fun (property, _) => q.assignmentText property))
      ([.symbol ","].intercalate
        (given.map fun a => [.name (q.base.columnName a.1), .symbol "=", .mark])) := by
  have hcomma : textWords ", ".toList = [.symbol ","] := by decide
  have hbindings := q.dialect.reads_bindings ", " (by decide) (by decide) (by decide)
    (given.map fun a => q.base.columnName a.1)
  rw [hcomma, Dialect.bindings, List.map_map, List.map_map] at hbindings
  exact hbindings

/-- The columns with the values assigned to them. -/
def assignmentTerms (q : Query) (given : List (String × Value)) : List Term :=
  [keyword ","].intercalate (given.map fun a => testTerms (q.base.columnName a.1, a.2))

theorem filled_assignments (q : Query) (given : List (String × Value)) :
    filled ([.symbol ","].intercalate
        (given.map fun a => [.name (q.base.columnName a.1), .symbol "=", .mark]))
      (given.map (·.2)) = some (q.assignmentTerms given) := by
  have hrow : ∀ a ∈ given, filled [.name (q.base.columnName a.1), .symbol "=", .mark] [a.2] =
      some (testTerms (q.base.columnName a.1, a.2)) := by
    intro a _
    simp [filled, testTerms]
  have hall := filled_intercalate (show Word.symbol "," ≠ .mark by simp) hrow
  rwa [← List.map_eq_flatMap] at hall

theorem where_not_mem_assignmentTerms (q : Query) (given : List (String × Value)) :
    keyword "WHERE" ∉ q.assignmentTerms given := by
  intro h
  rcases mem_intercalate h with h | ⟨row, hrow, h⟩
  · simp at h
  · obtain ⟨a, -, rfl⟩ := List.mem_map.mp hrow
    simp [testTerms] at h

namespace Mutation

/-- What stands in front of the condition, as words. -/
def leadWords (q : Query) : Mutation → List Word
  | update assignments => .symbol "UPDATE" :: .name q.base.table :: .symbol "SET" ::
    [.symbol ","].intercalate ((assignments.getD []).map
      fun a => [.name (q.base.columnName a.1), .symbol "=", .mark])
  | delete => [.symbol "DELETE", .symbol "FROM", .name q.base.table]

theorem reads_lead (q : Query) (m : Mutation) :
    Reads q.dialect.quotes (m.lead q) (m.leadWords q) := by
  have htable := q.dialect.reads_quote q.base.table
  cases m with
  | delete =>
      have hkeywords : textWords "DELETE FROM ".toList = [.symbol "DELETE", .symbol "FROM"] := by
        decide
      have hlead := htable.behind "DELETE FROM " (by decide) (by decide)
      rwa [hkeywords] at hlead
  | update assignments =>
      have hupdate : textWords "UPDATE ".toList = [.symbol "UPDATE"] := by decide
      have hkeyword : textWords " SET ".toList = [.symbol "SET"] := by decide
      have hset := (q.reads_assignments (assignments.getD [])).following " SET "
        (by decide) (by decide) (by decide)
      have hlead := (htable.behind "UPDATE " (by decide) (by decide)).append hset
      rw [hupdate, hkeyword, ← String.append_assoc] at hlead
      exact hlead

theorem words_compile {q : Query} {m : Mutation} {st : Compiled} (h : m.compile q = .ok st) :
    Sql.words st.sql = m.leadWords q ++ .symbol "WHERE" :: q.conditionWords := by
  rcases m.compile_cases q with ⟨cause, hcompile⟩ | ⟨-, params, hcompile⟩
  · rw [hcompile] at h
    contradiction
  · have hwhere : textWords " WHERE ".toList = [.symbol "WHERE"] := by decide
    have hcondition := q.reads_condition.following " WHERE " (by decide) (by decide) (by decide)
    have hwords := ((m.reads_lead q).append hcondition).words_eq q.dialect.quotes_mem_all
    rw [hwhere] at hwords
    rw [← Except.ok.inj (hcompile.symm.trans h), String.append_assoc]
    exact hwords

end Mutation

/-- The condition stands behind what is read in front of it. -/
theorem filled_write {q : Query} {ws : List Word} {own : List Value} {front terms : List Term}
    (hfront : filled ws own = some front) (hterms : q.conditionTerms? = some terms) :
    filled (ws ++ .symbol "WHERE" :: q.conditionWords) (own ++ q.params) =
      some (front ++ keyword "WHERE" :: terms) := by
  have hkeyword : filled [.symbol "WHERE"] [] = some [keyword "WHERE"] := by simp [filled]
  exact filled_append hfront (filled_append hkeyword hterms)

/-- A statement that writes is read as the base table with the condition. -/
theorem targetOf?_compile {q : Query} {m : Mutation} {st : Compiled} (h : m.compile q = .ok st)
    {terms : List Term} (hterms : q.conditionTerms? = some terms) :
    targetOf? st.sql st.params = (formula? terms).map (⟨q.base.table, ·⟩) := by
  rw [targetOf?, Mutation.words_compile h]
  cases m with
  | delete =>
      rw [Mutation.compile_delete] at h
      split at h
      · contradiction
      · have hfront : filled (Mutation.delete.leadWords q) [] =
            some [keyword "DELETE", keyword "FROM", named q.base.table] := by
          simp [Mutation.leadWords, filled]
        have hfilled := filled_write hfront hterms
        rw [List.nil_append] at hfilled
        rw [← Except.ok.inj h, hfilled]
        rfl
  | update assignments =>
      cases assignments with
      | none => contradiction
      | some given =>
          rw [Mutation.compile_update] at h
          split at h
          · contradiction
          · split at h
            · contradiction
            · have hset : filled [.symbol "UPDATE", .name q.base.table, .symbol "SET"] [] =
                  some [keyword "UPDATE", named q.base.table, keyword "SET"] := by simp [filled]
              have hfront := filled_append hset (q.filled_assignments given)
              have hfilled := filled_write hfront hterms
              have hwhere := q.where_not_mem_assignmentTerms given
              rw [List.nil_append] at hfilled
              rw [← Except.ok.inj h]
              simp only [Mutation.leadWords, Option.getD_some]
              refine (congrArg (·.bind target?) hfilled).trans ?_
              simpa using target?_update q.base.table hwhere

end Query

/-! ## Joins as they are read -/

namespace Join

variable (j : Join)

/-- What stands behind the keyword of a join. -/
def behind : List Term :=
  named j.table :: named j.aliasName :: keyword "ON" :: j.conditionWords.map .word

theorem not_mem_behind : ∀ t ∈ j.behind, t ∉ keyword "JOIN" :: kindTerms := by
  have hjoin : keyword "JOIN" :: kindTerms = joiners.map .word := by decide
  intro t ht
  rw [hjoin]
  simp only [behind, List.mem_cons, List.mem_map] at ht
  rcases ht with rfl | rfl | rfl | ⟨word, hword, rfl⟩
  · simp [joiners]
  · simp [joiners]
  · decide
  · simpa using j.avoids_conditionWords.right word hword

theorem mem_kindTerms_of_mem_leading (joins : List Join) :
    ∀ t ∈ (leading joins).map Term.word, t ∈ kindTerms := by
  intro t ht
  obtain ⟨w, hw, rfl⟩ := List.mem_map.mp ht
  obtain ⟨hjoiner, hjoin⟩ := mem_leading joins w hw
  have hkind : ∀ w ∈ joiners, w ≠ .symbol "JOIN" → Term.word w ∈ kindTerms := by decide
  exact hkind w hjoiner hjoin

theorem name_of_join? {before kinds : List Term} {clause : JoinClause}
    (hkinds : ∀ t ∈ kinds, t ∈ kindTerms) (h : join? before (j.behind ++ kinds) = some clause) :
    clause.name = j.aliasName := by
  have hbehind : (j.behind ++ kinds).takeWhile (· ∉ kindTerms) = j.behind := by
    refine takeWhile_append_of_ends (fun t ht hkind => ?_) fun t ht => ?_
    · exact j.not_mem_behind t ht (List.mem_cons_of_mem _ hkind)
    · exact hkinds t (List.mem_of_mem_head? ht)
  obtain ⟨kind, -, h⟩ := Option.bind_eq_some_iff.mp h
  rw [hbehind, behind] at h
  obtain ⟨condition, -, h⟩ := Option.bind_eq_some_iff.mp h
  rw [← Option.some.inj h]

/-- Read as joins, what stands between their keywords has the names of the joined tables. -/
theorem names_of_tableParts (joins : List Join) (before : List Term) {clauses : List JoinClause}
    (h : ((before :: (tableParts joins).map (List.map .word)).zip
      ((tableParts joins).map (List.map .word))).mapM (fun (a, b) => join? a b) = some clauses) :
    clauses.map (·.name) = joins.map (·.aliasName) := by
  induction joins generalizing before clauses with
  | nil =>
      rw [← Option.some.inj h]
      rfl
  | cons j joins ih =>
      have hpart : (tableParts (j :: joins)).map (List.map Term.word) =
          (j.behind ++ (leading joins).map .word) :: (tableParts joins).map (List.map .word) := by
        rw [tableParts, List.map_cons, List.map_append]
        rfl
      rw [hpart, List.zip_cons_cons, List.mapM_cons] at h
      obtain ⟨clause, hclause, h⟩ := Option.bind_eq_some_iff.mp h
      obtain ⟨rest, hrest, h⟩ := Option.bind_eq_some_iff.mp h
      rw [← Option.some.inj h, List.map_cons, List.map_cons, ih _ hrest,
        j.name_of_join? (mem_kindTerms_of_mem_leading joins) hclause]

theorem names_of_joins? (joins : List Join) {clauses : List JoinClause}
    (h : joins? ((joins.flatMap words).map Term.word) = some clauses) :
    clauses.map (·.name) = joins.map (·.aliasName) := by
  have hsplit : ((joins.flatMap words).map Term.word).splitOn (keyword "JOIN") =
      (leading joins).map .word :: (tableParts joins).map (List.map .word) := by
    have hwords := splitOn_words joins List.not_mem_nil
    rw [List.nil_append, List.nil_append] at hwords
    rw [splitOn_map fun _ _ => Term.word.inj, hwords, List.map_cons]
  rw [joins?, hsplit] at h
  split at h
  · rename_i heq
    obtain ⟨-, hnone⟩ := List.cons.inj heq
    split at h
    · rw [← Option.some.inj h]
      cases joins with
      | nil => rfl
      | cons j joins => contradiction
    · contradiction
  · exact names_of_tableParts joins _ h

end Join

namespace Query

/-! ## Selections as they are read -/

theorem not_mem_clauseStarts {ws : List Word} (h : Avoids dividers ws) :
    ∀ t ∈ ws.map Term.word, t ∉ clauseStarts := by
  have hstarts : ∀ t ∈ clauseStarts, t ∈ dividers.map Term.word := by decide
  intro t ht hstart
  obtain ⟨word, hword, rfl⟩ := List.mem_map.mp ht
  obtain ⟨divider, hdivider, heq⟩ := List.mem_map.mp (hstarts _ hstart)
  exact h word hword (Term.word.inj heq ▸ hdivider)

/-- The condition behind its keyword, if there is one. -/
def conditionClause? (q : Query) (terms : List Term) : Option (List Term) :=
  if q.condition = [] then none else some terms

theorem filled_whereWords {q : Query} {terms : List Term} (h : q.conditionTerms? = some terms) :
    filled q.whereWords q.params =
      some ((q.conditionClause? terms).elim [] (keyword "WHERE" :: ·)) := by
  unfold whereWords conditionClause?
  split
  · rename_i hnone
    simp [params, hnone, Condition.params, Condition.tests, filled]
  · rw [filled_cons (by simp), ← conditionTerms?, h]
    rfl

theorem bind_conditionClause? {q : Query} {terms : List Term} (h : q.conditionTerms? = some terms) :
    (q.conditionClause? terms).bind formula? = formula? terms := by
  unfold conditionClause?
  split
  · rename_i hnone
    have hempty : q.conditionTerms? = some [] := by
      simp [conditionTerms?, conditionWords, params, hnone, Condition.written, Condition.params,
        Condition.tests, filled]
    rw [Option.some.inj (h.symm.trans hempty)]
    rfl
  · rfl

/-- The table in front of joins is read with its alias. -/
theorem source?_sourceWords (q : Query) :
    source? ((q.sourceWords ++ q.joins.flatMap Join.words).map Term.word) =
      some (q.base.table, q.baseSource.qualifier.getD q.base.table,
        (q.joins.flatMap Join.words).map Term.word) := by
  have hkeyword : (q.joins.flatMap Join.words) = [] ∨
      ∃ k rest, q.joins.flatMap Join.words = .symbol k :: rest := by
    cases q.joins with
    | nil => exact .inl rfl
    | cons j joins =>
        right
        rw [List.flatMap_cons, Join.words]
        cases j.kind <;> exact ⟨_, _, rfl⟩
  unfold sourceWords
  rcases hkeyword with hnone | ⟨k, rest, hfirst⟩
  · rw [hnone]
    cases q.baseSource.qualifier <;> rfl
  · rw [hfirst]
    cases q.baseSource.qualifier <;> rfl

/-- The terms of a selection of all rows. -/
theorem filled_selectText {q : Query} {sql : String} (hjoins : JoinsSpaced q.joins)
    (hparts : ∀ expression, .computed expression ∉ q.projection) (hopen : q.window.isOpen = true)
    (h : q.selectText = .ok sql) {terms : List Term} (hterms : q.conditionTerms? = some terms) :
    ∃ (projection : List Term) (order : Option (List Term)),
      (∀ t ∈ projection, t ∉ clauseStarts) ∧ (∀ clause ∈ order, ∀ t ∈ clause, t ∉ clauseStarts) ∧
      filled (Sql.words sql) q.params = some (selectionTerms projection
        ((q.sourceWords ++ q.joins.flatMap Join.words).map Term.word)
        (q.conditionClause? terms) order) := by
  obtain ⟨projection, order, hprojection, horder, hwords⟩ :=
    words_selectText hjoins hparts hopen h
  have hmark {ws : List Word} (hws : Avoids dividers ws) : filled ws [] = some (ws.map .word) :=
    filled_of_not_mark_mem fun hmem => hws .mark hmem (by decide)
  have hselect : filled [.symbol "SELECT"] [] = some [keyword "SELECT"] := by simp [filled]
  have hfrom : filled [.symbol "FROM"] [] = some [keyword "FROM"] := by simp [filled]
  have hback : filled (order.elim [] (.symbol "ORDER" :: ·)) [] =
      some ((order.map (·.map Term.word)).elim [] (keyword "ORDER" :: ·)) := by
    cases order with
    | none => rfl
    | some ws =>
        rw [Option.elim_some, filled_cons (by simp), hmark (horder ws rfl)]
        rfl
  refine ⟨projection.map .word, order.map (·.map .word), not_mem_clauseStarts hprojection, ?_, ?_⟩
  · intro clause hclause
    obtain ⟨ws, hws, rfl⟩ := Option.map_eq_some_iff.mp hclause
    exact not_mem_clauseStarts (horder ws hws)
  · have hall := filled_append hselect (filled_append (hmark hprojection) (filled_append hfrom
      (filled_append (hmark q.avoids_sourceWords)
        (filled_append (filled_whereWords hterms) hback))))
    simp only [List.nil_append, List.append_nil] at hall
    rw [hwords]
    exact hall

/-- A selection of all rows is read as the tables of the query with its condition. -/
theorem of_selectionOf? {q : Query} {st : Compiled} (hjoins : JoinsSpaced q.joins)
    (hparts : ∀ expression, .computed expression ∉ q.projection) (hopen : q.window.isOpen = true)
    (h : q.selectStatement = .ok st) {terms : List Term} (hterms : q.conditionTerms? = some terms)
    {s : Selection} (hs : selectionOf? st.sql st.params = some s) :
    (s.table = q.base.table ∧ s.joins.map (·.name) = q.joins.map (·.aliasName)) ∧
      s.condition = formula? terms ∧ s.skipped = 0 ∧ s.kept = none := by
  obtain ⟨sql, hsql, rfl⟩ := map_eq_ok.mp h
  obtain ⟨projection, order, hprojection, horder, hfilled⟩ :=
    filled_selectText hjoins hparts hopen hsql hterms
  have hclause : ∀ clause ∈ q.conditionClause? terms, ∀ t ∈ clause, t ∉ conditionEnds := by
    intro clause hclause
    unfold conditionClause? at hclause
    split at hclause
    · contradiction
    · rw [← Option.some.inj hclause]
      exact not_mem_conditionTerms hterms
  have hsource := not_mem_clauseStarts q.avoids_sourceWords
  rw [selectionOf?_eq hfilled] at hs
  obtain ⟨⟨rest, hread, hrest⟩, hcondition, hpage⟩ :=
    of_selection? hprojection hsource hclause horder hs
  rw [q.source?_sourceWords, Option.some.injEq, Prod.mk.injEq, Prod.mk.injEq] at hread
  obtain ⟨htable, -, rfl⟩ := hread
  rw [bind_conditionClause? hterms] at hcondition
  refine ⟨⟨htable.symm, ?_⟩, hcondition, hpage⟩
  exact Join.names_of_joins? q.joins hrest

end Query

end RelationalMapper
