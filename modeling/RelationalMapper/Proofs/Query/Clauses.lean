import RelationalMapper.Proofs.Query.Qualifier
import RelationalMapper.Proofs.Query.Statement

/-! # The clauses of a selection

The tables of a selection are read back as they were joined, and of each other clause it is known which
names stand in front of its columns. -/

namespace RelationalMapper

open Sql

/-! ## Qualifiers of tests and conditions -/

theorem ColumnRef.head?_words_append (c : ColumnRef) (ws : List Word) :
    (c.words ++ ws).head? ≠ some (.symbol ".") := by
  unfold words
  split <;> simp

/-- Behind a column its own qualifier is told apart from what follows. -/
theorem ColumnRef.qualifiers_words_append (c : ColumnRef) {ws : List Word}
    (h : ws.head? ≠ some (.symbol ".")) :
    qualifiers (c.words ++ ws) = c.qualifier.toList ++ qualifiers ws := by
  unfold words
  split <;> simp_all [qualifiers_name_cons]

theorem ColumnRef.qualifiers_words (c : ColumnRef) : qualifiers c.words = c.qualifier.toList := by
  have hnone : ([] : List Word).head? ≠ some (.symbol ".") := by simp
  simpa using c.qualifiers_words_append hnone

theorem Test.qualifiers_written (t : Test) :
    qualifiers (t.written.flatMap Fragment.words) = t.column.qualifier.toList := by
  have hrest : t.predicateWords.head? ≠ some (.symbol ".") ∧ ∀ n, .name n ∉ t.predicateWords := by
    have hop (op : Comparison) (w : Word) (hw : ∀ n, .name n ≠ w) :
        (op.words ++ [w]).head? ≠ some (.symbol ".") ∧ ∀ n, .name n ∉ op.words ++ [w] := by
      cases op <;> simp [Comparison.words, hw]
    cases t with
    | compare column op value => exact hop op .mark (by simp)
    | isNull column => simp [predicateWords]
    | isNotNull column => simp [predicateWords]
    | compareNull column op => exact hop op (.symbol "NULL") (by simp)
    | among column values =>
        refine ⟨by simp [predicateWords], fun n hn => ?_⟩
        simp only [predicateWords, List.mem_cons, List.mem_append, List.not_mem_nil, or_false] at hn
        rcases hn with hn | hn | hn | hn
        · cases hn
        · cases hn
        · split at hn
          · exact name_not_mem_textWords n _ hn
          · rcases Dialect.mem_markWords hn with hn | hn <;> cases hn
        · cases hn
  rw [words_written, t.column.qualifiers_words_append hrest.1, qualifiers_eq_nil hrest.2,
    List.append_nil]

theorem ColumnTest.qualifiers_written (t : ColumnTest) :
    qualifiers (t.written.flatMap Fragment.words) =
      t.left.qualifier.toList ++ t.right.qualifier.toList := by
  have hop : (t.op.words ++ t.right.words).head? ≠ some (.symbol ".") := by
    cases t.op <;> simp [Comparison.words]
  have hright : qualifiers (t.op.words ++ t.right.words) = qualifiers t.right.words := by
    cases t.op <;> rfl
  rw [words_written, words, List.append_assoc, t.left.qualifiers_words_append hop, hright,
    t.right.qualifiers_words]

/-- A condition has the qualifiers of its tests. -/
theorem Condition.qualifiers_written {τ : Type} {write : τ → Written} {names : τ → List String}
    (hnames : ∀ t, qualifiers ((write t).flatMap Fragment.words) = names t)
    (hhead : ∀ t, ((write t).flatMap Fragment.words).head? ≠ some (.symbol "."))
    (c : Condition τ) :
    qualifiers ((c.written write).flatMap Fragment.words) = c.tests.flatMap names ∧
      ((c.written write).flatMap Fragment.words).head? ≠ some (.symbol ".") := by
  have hwords : (Fragment.plain " AND ").words = [.symbol "AND"] ∧
      (Fragment.plain " OR ").words = [.symbol "OR"] ∧ (Fragment.plain "(").words = [.symbol "("] ∧
      (Fragment.plain ")").words = [.symbol ")"] := by decide
  induction c with
  | nil => exact ⟨rfl, by simp [written]⟩
  | cons p c ih =>
      rw [written, List.flatMap_cons, List.flatMap_append, ← written]
      cases p with
      | test t =>
          refine ⟨?_, ?_⟩
          · rw [qualifiers_append ih.2, ih.1, Piece.written, hnames]
            rfl
          · have ht := hhead t
            cases hw : (write t).flatMap Fragment.words with
            | nil => simpa [Piece.written, hw] using ih.2
            | cons w ws => simpa [Piece.written, hw] using ht
      | _ =>
          refine ⟨?_, by simp [Piece.written, hwords]⟩
          rw [qualifiers_append ih.2, ih.1]
          simp only [Piece.written, List.flatMap_cons, hwords]
          rfl

namespace Join

variable (j : Join)

theorem qualifiers_conditionWords : qualifiers j.conditionWords =
    j.condition.tests.flatMap fun t => t.left.qualifier.toList ++ t.right.qualifier.toList :=
  (Condition.qualifiers_written ColumnTest.qualifiers_written (fun t => by
    rw [t.words_written, ColumnTest.words, List.append_assoc]
    exact t.left.head?_words_append _) j.condition).1

/-- Only the condition of a join names tables in front of columns. -/
theorem qualifiers_words_append {rest : List Word} (h : rest.head? ≠ some (.symbol ".")) :
    qualifiers (j.words ++ rest) = qualifiers j.conditionWords ++ qualifiers rest := by
  rw [words, List.append_assoc, qualifiers_textWords_append, List.cons_append,
    qualifiers_name_cons (by simp), List.cons_append, qualifiers_name_cons (by simp),
    List.cons_append, qualifiers_symbol_cons, qualifiers_append h]

/-- A join begins with a keyword. -/
theorem exists_words_eq_cons : ∃ k rest, j.words = .symbol k :: rest ∧ k ≠ "." := by
  have hkind : ∃ k rest, textWords j.kind.text.toList = .symbol k :: rest ∧ k ≠ "." := by
    cases j.kind <;> exact ⟨_, _, rfl, by decide⟩
  obtain ⟨k, rest, hkind, hk⟩ := hkind
  exact ⟨k, _, by rw [words, hkind]; rfl, hk⟩

end Join

/-! ## Tables as they are read -/

namespace Join

variable (j : Join)

/-- A joined table is read with its condition, in front of the kind of the next one. -/
theorem joinedTable?_tableWords {kinds : List Word} (hkinds : ∀ w ∈ kinds, w ∈ joiners) :
    joinedTable? (j.tableWords ++ kinds) = some ⟨j.aliasName, j.conditionWords⟩ := by
  have hcondition : (j.conditionWords ++ kinds).takeWhile (· ∉ joiners) = j.conditionWords :=
    takeWhile_append_of_ends j.avoids_conditionWords.right fun w hw =>
      hkinds w (List.mem_of_mem_head? hw)
  rw [← hcondition]
  rfl

theorem filterMap_tableParts (joins : List Join) : (tableParts joins).filterMap joinedTable? =
    joins.map fun j => ⟨j.aliasName, j.conditionWords⟩ := by
  induction joins with
  | nil => rfl
  | cons j joins ih =>
      have hjoined := j.joinedTable?_tableWords fun w hw => (mem_leading joins w hw).1
      rw [tableParts, List.filterMap_cons_some hjoined, ih, List.map_cons]

end Join

namespace Query

variable (q : Query)

/-- The tables of the query with the words of their conditions. -/
def tables : TableClause :=
  { aliasName := q.baseSource.qualifier
    joined := q.joins.map fun j => ⟨j.aliasName, j.conditionWords⟩ }

theorem firstAlias?_sourceWords :
    firstAlias? (q.sourceWords ++ q.joins.flatMap Join.words) = q.baseSource.qualifier := by
  unfold sourceWords
  cases q.baseSource.qualifier with
  | some name => rfl
  | none =>
      cases q.joins with
      | nil => rfl
      | cons j joins =>
          obtain ⟨k, rest, hwords, -⟩ := j.exists_words_eq_cons
          rw [List.flatMap_cons, hwords]
          rfl

/-- The tables are read back from between what stands in front of them and what ends them. -/
theorem tableClause_append {before rest : List Word} (hbefore : .symbol "FROM" ∉ before)
    (hrest : ∀ w ∈ rest.head?, w ∈ tableEnds) :
    tableClause (before ++ .symbol "FROM" ::
      ((q.sourceWords ++ q.joins.flatMap Join.words) ++ rest)) = q.tables := by
  have hends : ∀ w ∈ tableEnds, w ∈ dividers := by decide
  have htables : Avoids tableEnds (q.sourceWords ++ q.joins.flatMap Join.words) :=
    fun w hw hend => q.avoids_sourceWords w hw (hends w hend)
  have hsource : .symbol "JOIN" ∉ q.sourceWords := by simp [sourceWords]
  rw [tableClause, Sql.tableWords_append hbefore htables hrest, q.firstAlias?_sourceWords,
    Join.splitOn_words q.joins hsource, List.tail_cons, Join.filterMap_tableParts]
  rfl

/-! ## Qualifiers of clauses -/

theorem qualifiers_conditionWords : qualifiers q.conditionWords =
    q.condition.tests.flatMap fun t => t.column.qualifier.toList :=
  (Condition.qualifiers_written Test.qualifiers_written (fun t => by
    rw [t.words_written]
    exact t.column.head?_words_append _) q.condition).1

theorem qualifiers_sourceWords_append {rest : List Word} (h : rest.head? ≠ some (.symbol ".")) :
    qualifiers (q.sourceWords ++ rest) = qualifiers rest := by
  unfold sourceWords
  cases q.baseSource.qualifier with
  | none => simpa using qualifiers_name_cons h
  | some name =>
      have htable : (Word.name name :: rest).head? ≠ some (.symbol ".") := by simp
      exact (qualifiers_name_cons htable).trans (qualifiers_name_cons h)

/-- The tables of a selection name each other in the conditions of joins only. -/
theorem qualifiers_tables_append {rest : List Word} (h : rest.head? ≠ some (.symbol ".")) :
    qualifiers ((q.sourceWords ++ q.joins.flatMap Join.words) ++ rest) =
      (q.joins.flatMap fun j => qualifiers j.conditionWords) ++ qualifiers rest := by
  have hjoins (joins : List Join) : (joins.flatMap Join.words ++ rest).head? ≠ some (.symbol ".") ∧
      qualifiers (joins.flatMap Join.words ++ rest) =
        (joins.flatMap fun j => qualifiers j.conditionWords) ++ qualifiers rest := by
    induction joins with
    | nil => exact ⟨h, rfl⟩
    | cons j joins ih =>
        obtain ⟨k, words, hwords, hk⟩ := j.exists_words_eq_cons
        rw [List.flatMap_cons, List.append_assoc]
        refine ⟨by simpa [hwords] using hk, ?_⟩
        rw [j.qualifiers_words_append ih.1, ih.2, List.flatMap_cons, List.append_assoc]
  rw [List.append_assoc, q.qualifiers_sourceWords_append (hjoins q.joins).1, (hjoins q.joins).2]

end Query

/-! ## Texts and the names they use -/

namespace Sql

/-- The text is written cleanly, and only these names stand in front of its columns. -/
def Within (q : Quotes) (names : List String) (text : String) : Prop :=
  ∃ ws, Reads q text ws ∧ qualifiers ws ⊆ names

/-- Such a text that ends the tables of a selection, or is empty. -/
def Closes (q : Quotes) (names : List String) (text : String) : Prop :=
  ∃ ws, Follows q text ws ∧ qualifiers ws ⊆ names ∧ ∀ w ∈ ws.head?, w ∈ tableEnds

theorem head?_ne_dot_of_tableEnds {ws : List Word} (h : ∀ w ∈ ws.head?, w ∈ tableEnds) :
    ws.head? ≠ some (.symbol ".") := by
  intro hdot
  exact absurd (h _ hdot) (by decide)

section Texts

variable {q : Quotes} {names : List String} {a b text : String}

theorem closes_empty (q : Quotes) (names : List String) : Closes q names "" :=
  ⟨[], follows_empty q, by simp, by simp⟩

theorem Closes.append (ha : Closes q names a) (hb : Closes q names b) : Closes q names (a ++ b) := by
  obtain ⟨ws, hws, hnames, hhead⟩ := ha
  obtain ⟨ws', hws', hnames', hhead'⟩ := hb
  refine ⟨ws ++ ws', hws.append hws', ?_, ?_⟩
  · rw [qualifiers_append (head?_ne_dot_of_tableEnds hhead')]
    exact List.append_subset.mpr ⟨hnames, hnames'⟩
  · cases ws with
    | nil => exact hhead'
    | cons w ws => exact hhead

/-- A clause behind its keyword. -/
theorem Within.closes (h : Within q names text) (lead : String)
    (hplain : isPlain lead.toList = true) (hopens : opensApart lead.toList = true)
    (hends : endsOpen lead.toList = true)
    (hhead : ∃ k rest, textWords lead.toList = .symbol k :: rest ∧ .symbol k ∈ tableEnds) :
    Closes q names (lead ++ text) := by
  obtain ⟨ws, hws, hnames⟩ := h
  obtain ⟨k, rest, hlead, hk⟩ := hhead
  refine ⟨_, hws.following lead hplain hopens hends, by simpa using hnames, ?_⟩
  rw [hlead]
  rintro _ ⟨⟩
  exact hk

/-- A plain clause behind its keyword. -/
theorem closes_plain (q : Quotes) (names : List String) (lead rest : String)
    (hplain : isPlain (lead ++ rest).toList = true) (hopens : opensApart lead.toList = true)
    (hends : endsOpen lead.toList = true)
    (hhead : ∃ k more, textWords lead.toList = .symbol k :: more ∧ .symbol k ∈ tableEnds) :
    Closes q names (lead ++ rest) := by
  obtain ⟨k, more, hlead, hk⟩ := hhead
  have hopens' : opensApart (lead ++ rest).toList = true := by
    rw [String.toList_append]
    unfold opensApart at hopens ⊢
    cases hc : lead.toList with
    | nil => simp [hc] at hopens
    | cons c cs => simpa [hc] using hopens
  refine ⟨_, follows_plain q (lead ++ rest) hplain hopens', by simp, ?_⟩
  rw [String.toList_append, textWords_append (.inl hends), hlead]
  rintro _ ⟨⟩
  exact hk

theorem Within.append_plain (ha : Within q names a) (hplain : isPlain b.toList = true)
    (hopens : opensApart b.toList = true)
    (hdot : (textWords b.toList).head? ≠ some (.symbol ".")) : Within q names (a ++ b) := by
  obtain ⟨ws, hws, hnames⟩ := ha
  refine ⟨_, hws.append (follows_plain q b hplain hopens), ?_⟩
  rwa [qualifiers_append hdot, qualifiers_textWords, List.append_nil]

theorem Within.behind (h : Within q names text) (lead : String)
    (hplain : isPlain lead.toList = true) (hends : endsOpen lead.toList = true) :
    Within q names (lead ++ text) := by
  obtain ⟨ws, hws, hnames⟩ := h
  exact ⟨_, hws.behind lead hplain hends, by simpa using hnames⟩

theorem Within.joined {texts : List String} (h : ∀ text ∈ texts, Within q names text) :
    Within q names (Text.joined ", " texts) := by
  obtain ⟨rows, hreads, hrows⟩ := exists_reads_joined (show ", " ≠ "" by decide) (by decide)
    (by decide) (by decide) h
  have hcomma : textWords ", ".toList = [.symbol ","] := by decide
  rw [hcomma] at hreads
  refine ⟨_, hreads, ?_⟩
  rw [qualifiers_intercalate (by decide)]
  intro name hname
  obtain ⟨row, hrow, hname⟩ := List.mem_flatMap.mp hname
  exact hrows row hrow hname

end Texts

end Sql

/-! ## Clauses of a query -/

section Clauses

variable {names : List String}

theorem Dialect.within_columnText (d : Dialect) {c : ColumnRef} (h : c.qualifier.toList ⊆ names) :
    Within d.quotes names (d.columnText c) :=
  ⟨c.words, ⟨c.written, c.clean_written, c.apart_written, c.chars_written d, c.words_written⟩,
    by rwa [c.qualifiers_words]⟩

theorem Dialect.within_starText (d : Dialect) {qualifier : Option String}
    (h : qualifier.toList ⊆ names) : Within d.quotes names (d.starText qualifier) := by
  cases qualifier with
  | none =>
      exact ⟨_, (follows_plain _ "*" (by decide) (by decide)).reads,
        by rw [qualifiers_textWords]; exact List.nil_subset _⟩
  | some name =>
      have hstar : textWords ".*".toList = [.symbol ".", .symbol "*"] := by decide
      have hreads := (d.reads_quote name).append
        (follows_plain d.quotes ".*" (by decide) (by decide))
      rw [hstar] at hreads
      exact ⟨_, hreads, by simpa using h⟩

namespace Query

variable {q : Query}

/-- Whatever table the query names columns of, it goes by one of these names. -/
def Names (q : Query) (names : List String) : Prop :=
  ∀ entity source, q.source entity = .ok source → source.qualifier.toList ⊆ names

theorem Names.column (h : q.Names names) {entity : Option EntityClass} {property : String}
    {c : ColumnRef} (hc : q.column entity property = .ok c) : c.qualifier.toList ⊆ names := by
  obtain ⟨source, hsource, rfl⟩ := map_eq_ok.mp hc
  exact h entity source hsource

theorem within_withName {text : String} (h : Within q.dialect.quotes names text)
    (aliasName : Option String) : Within q.dialect.quotes names (q.withName text aliasName) := by
  unfold withName
  split
  · rename_i name _
    obtain ⟨ws, hws, hnames⟩ := h
    have has : textWords " AS ".toList = [.symbol "AS"] := by decide
    have hname := (q.dialect.reads_quote name).following " AS " (by decide) (by decide) (by decide)
    rw [has] at hname
    refine ⟨ws ++ ([.symbol "AS"] ++ [.name name]), ?_, ?_⟩
    · simpa [SelectionPart.named, String.append_assoc] using hws.append hname
    · have hnone : qualifiers [.name name] = [] := qualifiers_name_cons (by simp)
      rw [qualifiers_append (by simp)]
      simpa [hnone] using hnames
  · exact h

theorem within_aggregate (d : Dialect) (function : AggregateFunction) (distinct : Bool)
    {inner : String} (h : Within d.quotes names inner) :
    Within d.quotes names
      (function.name ++ "(" ++ (if distinct then "DISTINCT " else "") ++ inner ++ ")") := by
  refine (h.behind _ ?_ ?_).append_plain (by decide) (by decide) (by decide)
  all_goals cases function <;> cases distinct <;> decide

theorem within_partText (hq : q.Names names) {part : SelectionPart} {text : String}
    (hpart : ∀ expression, part ≠ .computed expression) (h : q.partText part = .ok text) :
    Within q.dialect.quotes names text := by
  cases part with
  | column property entity aliasName =>
      obtain ⟨column, hcolumn, h⟩ := bind_eq_ok.mp h
      rw [← Except.ok.inj h]
      exact within_withName (q.dialect.within_columnText (hq.column hcolumn)) aliasName
  | star entity =>
      obtain ⟨source, hsource, h⟩ := bind_eq_ok.mp h
      rw [← Except.ok.inj h]
      exact q.dialect.within_starText (hq entity source hsource)
  | aggregate function distinct property entity aliasName =>
      cases property with
      | none =>
          have hstar : Within q.dialect.quotes names (q.dialect.starText none) :=
            q.dialect.within_starText (List.nil_subset _)
          rw [← Except.ok.inj h]
          exact within_withName (within_aggregate q.dialect function distinct hstar) aliasName
      | some p =>
          obtain ⟨inner, hinner, h⟩ := bind_eq_ok.mp h
          obtain ⟨column, hcolumn, rfl⟩ := map_eq_ok.mp hinner
          rw [← Except.ok.inj h]
          exact within_withName (within_aggregate q.dialect function distinct
            (q.dialect.within_columnText (hq.column hcolumn))) aliasName
  | computed expression => exact absurd rfl (hpart expression)

theorem within_projectionText (hq : q.Names names) {text : String}
    (hparts : ∀ expression, .computed expression ∉ q.projection)
    (h : q.projectionText = .ok text) : Within q.dialect.quotes names text := by
  unfold projectionText at h
  split at h
  · rw [← Except.ok.inj h]
    exact q.dialect.within_starText (hq none q.baseSource rfl)
  · obtain ⟨texts, htexts, h⟩ := map_eq_ok.mp h
    rw [← h]
    refine Within.joined (forall_of_mapM_ok ?_ htexts)
    rintro part hpart text htext
    exact within_partText hq (fun e he => hparts e (he ▸ hpart)) htext

theorem qualifiers_whereWords (q : Query)
    (h : ∀ t ∈ q.condition.tests, t.column.qualifier.toList ⊆ names) :
    qualifiers q.whereWords ⊆ names ∧ ∀ w ∈ q.whereWords.head?, w ∈ tableEnds := by
  unfold whereWords
  split
  · simp
  · refine ⟨?_, by rintro _ ⟨⟩; decide⟩
    rw [qualifiers_symbol_cons, q.qualifiers_conditionWords]
    intro name hname
    obtain ⟨t, ht, hname⟩ := List.mem_flatMap.mp hname
    exact h t ht hname

theorem within_orderText? (h : ∀ t ∈ q.order, t.column.qualifier.toList ⊆ names) :
    ∀ terms ∈ q.orderText?, Within q.dialect.quotes names terms := by
  unfold orderText?
  split
  · simp
  · rintro _ ⟨⟩
    refine Within.joined fun text htext => ?_
    obtain ⟨t, ht, rfl⟩ := List.mem_map.mp htext
    refine (q.dialect.within_columnText (h t ht)).append_plain ?_ ?_ ?_
    all_goals cases t.ascending <;> decide

end Query

/-! ### Pages -/

namespace Dialect

variable {d : Dialect} {w : Window}

theorem closes_limitClause {n : String} (h : isPlain n.toList = true) :
    Closes d.quotes names (limitClause n) :=
  closes_plain _ _ " LIMIT " n (by rw [String.toList_append]; exact isPlain_append (by decide) h)
    (by decide) (by decide) ⟨"LIMIT", [], by decide, by decide⟩

theorem closes_offsetClause {rest : String} (h : isPlain rest.toList = true) :
    Closes d.quotes names (offsetClause rest) :=
  closes_plain _ _ " OFFSET " rest
    (by rw [String.toList_append]; exact isPlain_append (by decide) h) (by decide) (by decide)
    ⟨"OFFSET", [], by decide, by decide⟩

theorem closes_limitOffset {page : String} (h : d.limitOffset w = .ok page) :
    Closes d.quotes names page := by
  rw [limitOffset_eq] at h
  obtain ⟨limit, hlimit, h⟩ := bind_eq_ok.mp h
  obtain ⟨offset, hoffset, h⟩ := bind_eq_ok.mp h
  rw [← Except.ok.inj h]
  apply Closes.append
  · cases limit with
    | some n => exact closes_limitClause (isPlain_numeral? hlimit)
    | none =>
        cases hall : d.unboundedLimit? with
        | none => exact closes_empty _ _
        | some n =>
            refine closes_limitClause ?_
            cases d <;> simp_all [unboundedLimit?] <;> subst hall <;> decide
  · cases offset with
    | none => exact closes_empty _ _
    | some n => exact closes_offsetClause (isPlain_numeral? hoffset)

theorem closes_offsetFetch {page : String} (h : offsetFetch w = .ok page) :
    Closes d.quotes names page := by
  have hplain := isPlain_offsetFetch h
  rw [offsetFetch_eq] at h
  obtain ⟨offset, -, h⟩ := bind_eq_ok.mp h
  obtain ⟨limit, -, h⟩ := bind_eq_ok.mp h
  rw [← Except.ok.inj h, offsetClause, String.append_assoc, String.append_assoc] at hplain ⊢
  exact closes_plain _ _ " OFFSET " _ hplain (by decide) (by decide)
    ⟨"OFFSET", [], by decide, by decide⟩

theorem closes_orderBy {terms : String} (h : Within d.quotes names terms) :
    Closes d.quotes names (" ORDER BY " ++ terms) :=
  h.closes " ORDER BY " (by decide) (by decide) (by decide)
    ⟨"ORDER", [.symbol "BY"], by decide, by decide⟩

theorem closes_paginate {sql out : String} {order : Option String}
    (horder : ∀ terms ∈ order, Within d.quotes names terms) (h : d.paginate sql order w = .ok out) :
    ∃ page, Closes d.quotes names page ∧ out = sql ++ page := by
  rcases paginate_cases h with rfl | ⟨page, hpage, hout⟩
  · exact ⟨"", closes_empty _ _, by simp⟩
  · have hcloses : Closes d.quotes names page := hpage.elim closes_limitOffset closes_offsetFetch
    rcases hout with rfl | ⟨terms, hterms, rfl⟩
    · exact ⟨page, hcloses, rfl⟩
    · have hwithin : Within d.quotes names terms := by
        rcases hterms with hterms | rfl
        · exact horder terms hterms
        · exact ⟨_, (follows_plain _ "(SELECT 1)" (by decide) (by decide)).reads,
            by rw [qualifiers_textWords]; exact List.nil_subset _⟩
      exact ⟨_, (closes_orderBy hwithin).append hcloses, rfl⟩

end Dialect

/-! ### Selections -/

namespace Query

variable {q : Query}

/-- What a query has put together names its tables by these names. -/
structure Uses (q : Query) (names : List String) : Prop where
  sources : q.Names names
  condition : ∀ t ∈ q.condition.tests, t.column.qualifier.toList ⊆ names
  order : ∀ t ∈ q.order, t.column.qualifier.toList ⊆ names

/-- A selection, with or without a page, has its tables between a projection and what ends them. -/
theorem exists_words_selectText {sql : String} (hq : q.Uses names) (hjoins : JoinsSpaced q.joins)
    (hparts : ∀ expression, .computed expression ∉ q.projection) (h : q.selectText = .ok sql) :
    ∃ projection closing : List Word, .symbol "FROM" ∉ projection ∧
      qualifiers projection ⊆ names ∧ qualifiers closing ⊆ names ∧
      (∀ w ∈ closing.head?, w ∈ tableEnds) ∧
      Sql.words sql = projection ++ .symbol "FROM" ::
        ((q.sourceWords ++ q.joins.flatMap Join.words) ++ closing) := by
  obtain ⟨projection, hprojection, h⟩ := bind_eq_ok.mp h
  obtain ⟨row, hrow, hnames⟩ := within_projectionText hq.sources hparts hprojection
  obtain ⟨row', hrow', havoids⟩ := omits_projectionText hparts hprojection
  obtain rfl : row = row' :=
    (hrow.words_eq q.dialect.quotes_mem_all).symm.trans (hrow'.words_eq q.dialect.quotes_mem_all)
  obtain ⟨order, horder, horderNames, horderHead⟩ : Closes q.dialect.quotes names
      (q.orderText?.elim "" (" ORDER BY " ++ ·)) := by
    cases hterms : q.orderText? with
    | none => exact closes_empty _ _
    | some terms => exact Dialect.closes_orderBy (within_orderText? hq.order terms hterms)
  obtain ⟨page, ⟨last, hlast, hlastNames, hlastHead⟩, rfl⟩ :=
    Dialect.closes_paginate (within_orderText? hq.order) h
  obtain ⟨hwhereNames, hwhereHead⟩ := q.qualifiers_whereWords hq.condition
  have hall := (((hrow.behind "SELECT " (by decide) (by decide)).append
    (follows_fromText hjoins)).append horder).append hlast
  have hselect : textWords "SELECT ".toList = [.symbol "SELECT"] := by decide
  refine ⟨.symbol "SELECT" :: row, q.whereWords ++ (order ++ last), ?_, by simpa using hnames, ?_,
    ?_, ?_⟩
  · have hfrom : .symbol "FROM" ∉ row := fun hmem => havoids _ hmem (by decide)
    simpa using hfrom
  · have hdot : (order ++ last).head? ≠ some (.symbol ".") := by
      cases order with
      | nil => exact head?_ne_dot_of_tableEnds hlastHead
      | cons w order =>
          have hhead : ∀ w' ∈ (w :: (order ++ last)).head?, w' ∈ tableEnds := horderHead
          exact head?_ne_dot_of_tableEnds hhead
    rw [qualifiers_append hdot, qualifiers_append (head?_ne_dot_of_tableEnds hlastHead)]
    exact List.append_subset.mpr ⟨hwhereNames, List.append_subset.mpr ⟨horderNames, hlastNames⟩⟩
  · cases hwhere : q.whereWords with
    | cons w ws =>
        rw [hwhere] at hwhereHead
        exact hwhereHead
    | nil =>
        cases order with
        | nil => exact hlastHead
        | cons w order => exact horderHead
  · rw [hall.words_eq q.dialect.quotes_mem_all, hselect]
    simp

/-- The tables of a selection are read back, and beside the conditions of its joins it uses these names
only. -/
theorem tableClause_selectText {sql : String} (hq : q.Uses names) (hjoins : JoinsSpaced q.joins)
    (hparts : ∀ expression, .computed expression ∉ q.projection) (h : q.selectText = .ok sql) :
    tableClause (Sql.words sql) = q.tables ∧
      ∀ name ∈ qualifiers (Sql.words sql), name ∈ names ∨
        ∃ j ∈ q.joins, name ∈ qualifiers j.conditionWords := by
  obtain ⟨projection, closing, hfrom, hprojection, hclosing, hhead, hwords⟩ :=
    exists_words_selectText hq hjoins hparts h
  refine ⟨by rw [hwords, q.tableClause_append hfrom hhead], ?_⟩
  rw [hwords, qualifiers_append (by simp), qualifiers_symbol_cons,
    q.qualifiers_tables_append (head?_ne_dot_of_tableEnds hhead)]
  intro name hname
  simp only [List.mem_append, List.mem_flatMap] at hname
  rcases hname with hname | hname | hname
  · exact .inl (hprojection hname)
  · exact .inr hname
  · exact .inl (hclosing hname)

end Query

end Clauses

end RelationalMapper
