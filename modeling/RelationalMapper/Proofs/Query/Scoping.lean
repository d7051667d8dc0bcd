import RelationalMapper.Proofs.Query.Clauses
import RelationalMapper.Proofs.Query.Coverage
import RelationalMapper.Proofs.Query.History

/-! # Selections name the tables they read

The names in front of columns are settled at different times: when a test is stated, when a join is
made, when the selection is compiled. As long as the base table gets its alias once and no join is
refused halfway, all of them are names of tables that the selection reads. -/

namespace RelationalMapper.Query

open Sql

/-- The aliases of the tables that the query reads. -/
def names (q : Query) : List String := q.baseSource.qualifier.toList ++ q.joins.map (·.aliasName)

/-- Every name in front of a column is an alias of a table that the query reads, and in the condition
of a join, of a table that was joined up to there. -/
structure Scoped (q : Query) : Prop where
  uses : q.Uses q.names
  conditions : ∀ n j, q.joins[n]? = some j → ∀ t ∈ j.condition.tests,
    t.left.qualifier.toList ++ t.right.qualifier.toList ⊆ q.tables.introduced (n + 1)

theorem introduced_tables (q : Query) (n : Nat) : q.tables.introduced n =
    q.baseSource.qualifier.toList ++ (q.joins.take n).map (·.aliasName) := by
  rw [TableClause.introduced, tables, ← List.map_take, List.map_map]
  rfl

theorem introduced_length (q : Query) : q.tables.introduced q.joins.length = q.names := by
  rw [introduced_tables, List.take_length, names]

/-! ## What a request keeps in scope -/

section Requests

variable {q : Query} {ns ns' : List String}

theorem Uses.mono (h : q.Uses ns) (hns : ns ⊆ ns') : q.Uses ns' where
  sources entity source hsource := fun _ hn => hns (h.sources entity source hsource hn)
  condition t ht := fun _ hn => hns (h.condition t ht hn)
  order t ht := fun _ hn => hns (h.order t ht hn)

/-- A table comes into scope under one of the names. -/
theorem Names.put (h : q.Names ns) {name : String} {s : Source} (hs : s.qualifier.toList ⊆ ns) :
    Names { q with scope := q.scope.put name s } ns := by
  rintro (_ | type) found hfound
  · exact h none found hfound
  · rcases Scope.source_put hfound with ⟨-, rfl⟩ | ⟨-, hfound⟩
    · exact hs
    · exact h (some type) found hfound

/-- The base table gets an alias that is one of the names. -/
theorem Names.renamed (h : q.Names ns) {aliasName : Option String}
    (hs : (⟨q.base, aliasName⟩ : Source).qualifier.toList ⊆ ns) :
    Names { q with baseAlias := aliasName } ns := by
  rintro (_ | type) found hfound
  · rw [← Except.ok.inj hfound]
    exact hs
  · exact h (some type) found hfound

/-- The tests of a join condition are made of columns of the query and of the joined table. -/
theorem Names.joinTests (h : q.Names ns) {joined : Source} (hjoined : joined.qualifier.toList ⊆ ns)
    {steps : List (Piece JoinTest)} {pieces : List (Piece ColumnTest)}
    (hsettled : steps.mapM (Piece.settled (q.joinTest joined)) = .ok pieces) :
    ∀ t ∈ Condition.tests (pieces.foldl Condition.extend []),
      t.left.qualifier.toList ++ t.right.qualifier.toList ⊆ ns := by
  intro t ht
  rw [Condition.tests_foldl_extend, ← untilRefused_of_mapM_ok hsettled] at ht
  obtain ⟨asked, hasked⟩ := Condition.exists_of_mem_tests ht
  obtain ⟨column, hcolumn, rfl⟩ := map_eq_ok.mp hasked
  exact List.append_subset.mpr ⟨h.column hcolumn, hjoined⟩

/-- A filter is made of columns of the query. -/
theorem Names.filterTests (h : q.Names ns) {steps : List (Piece FilterTest)} {t : Test}
    (ht : t ∈ Condition.tests (q.asked steps)) : t.column.qualifier.toList ⊆ ns := by
  obtain ⟨asked, hasked⟩ := Condition.exists_of_mem_tests ht
  obtain ⟨entity, property, hcolumn⟩ := column_of_filterTest hasked
  exact h.column hcolumn

/-- Before the base table has an alias, its columns go without. -/
theorem Scoped.aliased (h : q.Scoped) (hnone : q.baseAlias = none) (aliasName : Option String) :
    Scoped { q with
      baseAlias := aliasName
      scope := q.scope.put q.base.type.name ⟨q.base, aliasName⟩ } := by
  have hbase : q.baseSource.qualifier.toList = [] := by
    rw [baseSource, hnone]
    rfl
  have hnames : q.names ⊆
      (⟨q.base, aliasName⟩ : Source).qualifier.toList ++ q.joins.map (·.aliasName) := by
    rw [names, hbase]
    exact List.subset_append_right _ _
  have huses := h.uses.mono hnames
  have hs : (⟨q.base, aliasName⟩ : Source).qualifier.toList ⊆
      (⟨q.base, aliasName⟩ : Source).qualifier.toList ++ q.joins.map (·.aliasName) :=
    List.subset_append_left _ _
  refine ⟨⟨(huses.sources.renamed hs).put hs, huses.condition, huses.order⟩, fun n j hj t ht => ?_⟩
  have htest := h.conditions n j hj t ht
  rw [introduced_tables, hbase] at htest
  rw [introduced_tables]
  exact fun name hname => List.mem_append_right _ (htest hname)

theorem Scoped.filtered (h : q.Scoped) {steps : List (Piece FilterTest)} (n : Nat)
    {c : Condition Test} (hc : c.tests = q.condition.tests ++ Condition.tests (q.asked steps)) :
    Scoped { q with tests := n, condition := c } := by
  refine ⟨⟨h.uses.sources, fun t ht => ?_, h.uses.order⟩, h.conditions⟩
  rw [hc] at ht
  rcases List.mem_append.mp ht with ht | ht
  · exact h.uses.condition t ht
  · exact h.uses.sources.filterTests ht

/-- A join is made of columns of the tables in front of it and of its own. -/
theorem Scoped.joined (h : q.Scoped) {m : TableMap} (j : Join) {steps : List (Piece JoinTest)}
    {pieces : List (Piece ColumnTest)} (hj : j.condition = pieces.foldl Condition.extend [])
    (hsettled : steps.mapM (Piece.settled ((q.withSource ⟨m, some j.aliasName⟩).joinTest
      ⟨m, some j.aliasName⟩)) = .ok pieces) :
    Scoped { q.withSource ⟨m, some j.aliasName⟩ with joins := q.joins ++ [j] } := by
  have hs : (⟨m, some j.aliasName⟩ : Source).qualifier.toList ⊆ q.names ++ [j.aliasName] := by
    intro name hname
    have hname : name = j.aliasName := by
      by_cases hempty : j.aliasName = "" <;> simp_all [Source.qualifier, Option.filter]
    exact List.mem_append_right _ (List.mem_singleton.mpr hname)
  have huses := h.uses.mono (List.subset_append_left q.names [j.aliasName])
  have hsources : (q.withSource ⟨m, some j.aliasName⟩).Names (q.names ++ [j.aliasName]) :=
    huses.sources.put hs
  have hall : q.baseSource.qualifier.toList ++ (q.joins ++ [j]).map (·.aliasName) =
      q.names ++ [j.aliasName] := by
    simp [names]
  refine ⟨?_, fun n j' hj' => ?_⟩
  · rw [names]
    exact hall ▸ ⟨hsources, huses.condition, huses.order⟩
  · rw [introduced_tables]
    rcases Nat.lt_or_ge n q.joins.length with hn | hn
    · have htests := h.conditions n j' (by rwa [List.getElem?_append_left hn] at hj')
      rw [introduced_tables] at htests
      rwa [List.take_append_of_le_length hn]
    · rw [List.getElem?_append_right hn] at hj'
      obtain ⟨hlast, rfl⟩ : n - q.joins.length = 0 ∧ j = j' := by
        simpa [List.getElem?_singleton] using hj'
      rw [List.take_of_length_le (by simp; omega), hj]
      exact hall ▸ hsources.joinTests hs hsettled

end Requests

def Request.renames : Request → Bool
  | .build (.setAlias _) => true
  | _ => false

theorem Effect.scoped {p : Session × Query} {r : Request}
    {result : Except Failure (Option String)} {q : Query} (h : Effect p r result q)
    (hp : p.2.Scoped) (hstray : ∀ e, result = .error e → r.opened? p = none)
    (halias : r.renames = true → p.2.baseAlias = none) : q.Scoped := by
  have htests := h.tests_eq
  cases h with
  | rested _ => exact ⟨⟨hp.uses.sources, hp.uses.condition, hp.uses.order⟩, hp.conditions⟩
  | refused _ _ => exact hp
  | aliased aliasName => exact hp.aliased (halias rfl) aliasName
  | filtered hopen _ =>
      rw [Request.asked_filter hopen] at htests
      exact hp.filtered _ htests
  | joined _ hsettled => exact hp.joined _ rfl hsettled
  | unjoined hopened _ =>
      have hnone := hstray _ rfl
      rw [Request.opened?, hopened] at hnone
      contradiction
  | selected _ => exact ⟨⟨hp.uses.sources, hp.uses.condition, hp.uses.order⟩, hp.conditions⟩
  | ordered hcolumn =>
      refine ⟨⟨hp.uses.sources, hp.uses.condition, fun t ht => ?_⟩, hp.conditions⟩
      rcases List.mem_append.mp ht with ht | ht
      · exact hp.uses.order t ht
      · rw [List.mem_singleton.mp ht]
        exact hp.uses.sources.column hcolumn

theorem Effect.baseAlias_eq {p : Session × Query} {r : Request}
    {result : Except Failure (Option String)} {q : Query} (h : Effect p r result q)
    (hr : r.renames = false) : q.baseAlias = p.2.baseAlias := by
  cases h with
  | aliased _ => contradiction
  | _ => rfl

/-! ## What a history keeps in scope -/

theorem scoped_start (d : Dialect) (base : TableMap) : (start d base).Scoped := by
  refine ⟨⟨?_, nofun, nofun⟩, nofun⟩
  rintro (_ | type) found hfound
  · rw [← Except.ok.inj hfound]
    exact List.nil_subset _
  · rw [source_start] at hfound
    split at hfound
    · rw [← Except.ok.inj hfound]
      exact List.nil_subset _
    · contradiction

theorem History.scoped {steps : List Step} {q : Query} (h : History steps q)
    (hstray : ∀ step ∈ steps, step.stray? = none)
    (halias : steps.countP (·.request.renames) ≤ 1) :
    q.Scoped ∧ (steps.countP (·.request.renames) = 0 → q.baseAlias = none) := by
  induction h with
  | start hrun =>
      obtain ⟨d, base, rfl⟩ := eq_start_of_query hrun
      exact ⟨scoped_start d base, fun _ => rfl⟩
  | @request steps q _ r s ih =>
      have hcount : (steps ++ [r.step (s, q)]).countP (·.request.renames) =
          steps.countP (·.request.renames) + if r.renames then 1 else 0 := by
        rw [List.countP_append, List.countP_singleton]
        rfl
      rw [hcount] at halias ⊢
      obtain ⟨hscoped, hnone⟩ := ih (fun step hstep => hstray step (List.mem_append_left _ hstep))
        (by omega)
      have hlast : (r.step (s, q)).stray? = none := hstray _ (by simp)
      have heffect := r.effect s q
      refine ⟨heffect.scoped hscoped (fun e he => ?_) fun hr => hnone ?_, fun hzero => ?_⟩
      · rw [Step.stray?, he] at hlast
        exact hlast
      · rw [hr] at halias
        simpa using halias
      · have hr : r.renames = false := by
          by_contra hr
          simp [hr] at hzero
        rw [heffect.baseAlias_eq hr]
        exact hnone (by omega)

/-- A selection names in front of its columns the alias of its first table or of one that it joins, and
in the condition of a join the alias of a table that was joined up to there. -/
theorem History.scopes {steps : List Step} {q : Query} (h : History steps q)
    (hstray : ∀ step ∈ steps, step.stray? = none)
    (halias : steps.countP (·.request.renames) ≤ 1)
    (hparts : ∀ expression, .computed expression ∉ q.projection) {st : Compiled}
    (hst : q.selectStatement = .ok st) :
    tableClause (Sql.words st.sql) = q.tables ∧ q.tables.Scopes (Sql.words st.sql) := by
  obtain ⟨hscoped, -⟩ := h.scoped hstray halias
  obtain ⟨sql, hsql, rfl⟩ := map_eq_ok.mp hst
  obtain ⟨htables, hnames⟩ := tableClause_selectText hscoped.uses h.joinsSpaced hparts hsql
  have hconditions : ∀ (n : Nat) (j : Join), q.joins[n]? = some j →
      qualifiers j.conditionWords ⊆ q.tables.introduced (n + 1) := by
    intro n j hj name hname
    rw [j.qualifiers_conditionWords] at hname
    obtain ⟨t, ht, hname⟩ := List.mem_flatMap.mp hname
    exact hscoped.conditions n j hj t ht hname
  have hlength : q.tables.joined.length = q.joins.length := List.length_map _
  refine ⟨htables, fun name hname => ?_, fun n joined hjoined => ?_⟩
  · rw [hlength, introduced_length]
    rcases hnames name hname with hname | ⟨j, hj, hname⟩
    · exact hname
    · obtain ⟨n, hn⟩ := List.mem_iff_getElem?.mp hj
      have hmem := hconditions n j hn hname
      rw [introduced_tables] at hmem
      refine List.append_subset.mpr ⟨List.subset_append_left _ _, ?_⟩ hmem
      exact fun _ h => List.mem_append_right _ (List.map_subset _ (List.take_subset _ _) h)
  · obtain ⟨j, hj, rfl⟩ : ∃ j, q.joins[n]? = some j ∧ ⟨j.aliasName, j.conditionWords⟩ = joined := by
      simpa [tables] using hjoined
    exact hconditions n j hj

/-- Items with later items of the same name and their notes. -/
def laterItems : List Request :=
  [.build (.setAlias (some "i")),
    .build (.join .left TableMap.itemClass (some "j")
      [.test ⟨"name", .equal, "name", none⟩, .test ⟨"id", .less, "id", none⟩]),
    .build (.join .inner noteClass (some "n")
      [.test ⟨"id", .equal, "owner", some TableMap.itemClass⟩]),
    .build (pens (some noteClass)), .build (.orderBy "id" false (some TableMap.itemClass))]

theorem scopes_laterItems :
    (∀ step ∈ steps laterItems (default, start .sqlite TableMap.itemMap), step.stray? = none) ∧
    (steps laterItems (default, start .sqlite TableMap.itemMap)).countP (·.request.renames) ≤ 1 ∧
    (∀ expression, .computed expression ∉ (itemsAfter laterItems).projection) ∧
    ∃ st, (itemsAfter laterItems).selectStatement = .ok st ∧
      st.sql = "SELECT \"i\".* FROM \"item\" \"i\"" ++
        " LEFT JOIN \"item\" \"j\" ON \"i\".\"name\" = \"j\".\"name\"" ++
        " AND \"i\".\"id\" < \"j\".\"id\"" ++
        " INNER JOIN \"note\" \"n\" ON \"j\".\"id\" = \"n\".\"owner\"" ++
        " WHERE \"n\".\"name\" = ? ORDER BY \"j\".\"id\" DESC" ∧
      tableClause (Sql.words st.sql) = (itemsAfter laterItems).tables ∧
      (itemsAfter laterItems).tables.Scopes (Sql.words st.sql) := by
  have hstray : ∀ step ∈ steps laterItems (default, start .sqlite TableMap.itemMap),
      step.stray? = none := by decide +kernel
  have halias : (steps laterItems (default, start .sqlite TableMap.itemMap)).countP
      (·.request.renames) ≤ 1 := by decide +kernel
  have hall : (itemsAfter laterItems).projection = [] := List.isEmpty_iff.mp (by decide +kernel)
  have hparts : ∀ expression, .computed expression ∉ (itemsAfter laterItems).projection := by
    simp [hall]
  exact ⟨hstray, halias, hparts, _, rfl, by decide +kernel,
    (history_itemsAfter laterItems).scopes hstray halias hparts rfl⟩

end RelationalMapper.Query
