import RelationalMapper.Proofs.Dialect.Page
import RelationalMapper.Proofs.Query.History
import RelationalMapper.Proofs.Text.Lowered

/-! # Orders in front of pages

A page needs an order in front of it on SQL Server. Whether a selection has one is seen by its words, and
the same words may stand in the names and expressions that it is put together from. -/

namespace RelationalMapper

open Text

/-! ## The words of an order -/

namespace Dialect

/-- The letters of a text, each in lower case. -/
def folded (text : String) : List Char := text.toList.map Char.toLower

@[simp] theorem folded_append (a b : String) : folded (a ++ b) = folded a ++ folded b := by
  simp [folded]

/-- The words by which an order is recognised. -/
def orderWords : List Char := "order by".toList

/-- The words without their last letter. -/
def orderStem : List Char := "order b".toList

theorem orderWords_eq : orderWords = orderStem ++ ['y'] := by decide

theorem hasOrderBy_iff {text : String} : hasOrderBy text = true ↔ orderWords <:+: folded text :=
  contains_lower (by decide) (List.all_eq_true.mp (by decide)) text

theorem hasOrderBy_append_right {a b : String} (h : hasOrderBy b = true) :
    hasOrderBy (a ++ b) = true := by
  rw [hasOrderBy_iff, folded_append]
  exact List.infix_append_of_infix_right (hasOrderBy_iff.mp h)

theorem hasOrderBy_append_left {a b : String} (h : hasOrderBy a = true) :
    hasOrderBy (a ++ b) = true := by
  rw [hasOrderBy_iff, folded_append]
  exact List.infix_append_of_infix_left (hasOrderBy_iff.mp h)

/-- No `y` of the text ends the words, whatever stands in front of the text. -/
def Unended (text : List Char) : Prop :=
  ∀ before behind, text = before ++ 'y' :: behind → ¬before <:+ orderStem ∧ ¬orderStem <:+ before

namespace Unended

variable {a b lead text : List Char}

theorem of_not_mem (h : 'y' ∉ text) : Unended text := by
  rintro before behind rfl
  simp at h

theorem append (ha : Unended a) (hb : Unended b) : Unended (a ++ b) := by
  intro before behind heq
  rcases List.append_eq_append_iff.mp heq with ⟨rest, rfl, hrest⟩ | ⟨rest, rfl, hrest⟩
  · obtain ⟨hpart, hstem⟩ := hb rest behind hrest
    refine ⟨fun h => hpart ((List.suffix_append a rest).trans h), fun h => ?_⟩
    rcases List.suffix_or_suffix_of_suffix h (List.suffix_append a rest) with h | h
    · exact hstem h
    · exact hpart h
  · cases rest with
    | nil => exact absurd List.nil_suffix (hb [] behind hrest.symm).1
    | cons c rest =>
        obtain ⟨rfl, -⟩ := List.cons.inj hrest
        exact ha before rest rfl

theorem not_infix (h : Unended text) : ¬orderWords <:+: text := by
  rintro ⟨before, behind, rfl⟩
  refine (h (before ++ orderStem) behind ?_).2 (List.suffix_append ..)
  simp [orderWords_eq]

/-- A text without the words does not end them behind a lead that they do not begin in and that is not
part of them. -/
theorem behind {c : Char} (hy : 'y' ∉ lead) (ho : 'o' ∉ lead) (hc : c ∈ lead)
    (hstem : c ∉ orderStem) (h : ¬orderWords <:+: text) : Unended (lead ++ text) := by
  intro before behind heq
  obtain ⟨rest, rfl, rfl⟩ : ∃ rest, before = lead ++ rest ∧ text = rest ++ 'y' :: behind := by
    rcases List.append_eq_append_iff.mp heq with hlead | ⟨rest, rfl, hrest⟩
    · exact hlead
    · cases rest with
      | nil => exact ⟨[], by simp, hrest.symm⟩
      | cons c rest =>
          obtain ⟨rfl, -⟩ := List.cons.inj hrest
          simp at hy
  have hwords : ¬orderStem <:+ rest := by
    rintro ⟨more, rfl⟩
    exact h ⟨more, behind, by simp [orderWords_eq]⟩
  refine ⟨fun hpart => hstem (hpart.subset (List.mem_append_left rest hc)), fun hends => ?_⟩
  rcases List.suffix_or_suffix_of_suffix hends (List.suffix_append lead rest) with h | ⟨start, h⟩
  · exact hwords h
  · cases start with
    | nil => exact hwords (h ▸ List.suffix_refl _)
    | cons c start =>
        -- The words begin with `o`, which the lead does not have.
        obtain rfl : c = 'o' := (List.cons.inj h).1
        obtain ⟨more, hmore⟩ := hends
        rw [← h, ← List.append_assoc] at hmore
        obtain rfl : more ++ 'o' :: start = lead := List.append_cancel_right hmore
        simp at ho

end Unended

/-! ## Texts that statements are put together from -/

/-- A statement on SQL Server, put together from these texts: names, which are quoted, and expressions,
which stand as they are behind one of these leads. Between them are keywords without a `y`. -/
inductive Told : List String → String → Prop
  | keyword (text : String) (h : 'y' ∉ folded text) : Told [] text
  | name (identifier : String) : Told [identifier] (sqlServer.quote identifier)
  | expression {lead : String} (h : lead ∈ ["SELECT ", ", "]) (text : String) :
      Told [text] (lead ++ text)
  | append {texts more : List String} {a b : String} (ha : Told texts a) (hb : Told more b) :
      Told (texts ++ more) (a ++ b)

theorem folded_quote (identifier : String) :
    folded (sqlServer.quote identifier) =
      ['['] ++ (doubled ']' identifier.toList).map Char.toLower ++ [']'] := by
  have hopening : '['.toLower = '[' := by decide
  have hclosing : ']'.toLower = ']' := by decide
  simp [folded, Sql.Quotes.quoteChars, quotes, Sql.Quotes.brackets, hopening, hclosing]

/-- A bracket inside a name is no part of the words, and neither is one around it. -/
theorem infix_doubled_iff (identifier : String) :
    orderWords <:+: (doubled ']' identifier.toList).map Char.toLower ↔
      hasOrderBy identifier = true := by
  rw [hasOrderBy_iff, folded]
  exact ((respells_doubled (by decide) _).infix_iff (List.Subset.refl _) (by decide)).symm

namespace Told

variable {texts more : List String} {text a b : String}

theorem before (h : Told texts a) (hb : 'y' ∉ folded b) : Told texts (a ++ b) := by
  simpa using h.append (.keyword b hb)

theorem behind (h : Told texts b) (ha : 'y' ∉ folded a) : Told texts (a ++ b) :=
  (Told.keyword a ha).append h

theorem hasOrderBy_of_mem (h : Told texts text) {given : String} (hmem : given ∈ texts)
    (hgiven : hasOrderBy given = true) : hasOrderBy text = true := by
  induction h with
  | keyword => simp at hmem
  | name identifier =>
      obtain rfl := List.mem_singleton.mp hmem
      rw [hasOrderBy_iff, folded_quote]
      exact List.infix_append_of_infix_left
        (List.infix_append_of_infix_right ((infix_doubled_iff given).mpr hgiven))
  | expression _ expression =>
      obtain rfl := List.mem_singleton.mp hmem
      exact hasOrderBy_append_right hgiven
  | append _ _ iha ihb =>
      rcases List.mem_append.mp hmem with hmem | hmem
      · exact hasOrderBy_append_left (iha hmem)
      · exact hasOrderBy_append_right (ihb hmem)

theorem unended (h : Told texts text) (hnone : ∀ given ∈ texts, hasOrderBy given = false) :
    Unended (folded text) := by
  induction h with
  | keyword text h => exact .of_not_mem h
  | name identifier =>
      have hname : ¬orderWords <:+: (doubled ']' identifier.toList).map Char.toLower := by
        simp [infix_doubled_iff, hnone identifier (by simp)]
      rw [folded_quote]
      exact (Unended.behind (c := '[') (by decide) (by decide) (by decide) (by decide) hname).append
        (.of_not_mem (by decide))
  | expression hlead expression =>
      have hexpression : ¬orderWords <:+: folded expression := by
        simp [← hasOrderBy_iff, hnone expression (by simp)]
      rw [folded_append]
      simp only [List.mem_cons, List.not_mem_nil, or_false] at hlead
      rcases hlead with rfl | rfl
      · exact .behind (c := 's') (by decide) (by decide) (by decide) (by decide) hexpression
      · exact .behind (c := ',') (by decide) (by decide) (by decide) (by decide) hexpression
  | append _ _ iha ihb =>
      rw [folded_append]
      exact (iha fun given h => hnone given (List.mem_append_left _ h)).append
        (ihb fun given h => hnone given (List.mem_append_right _ h))

/-- The words of an order are in a statement where one of its texts has them: no keyword, and no two
texts together, make them up. -/
theorem hasOrderBy_iff (h : Told texts text) :
    hasOrderBy text = true ↔ ∃ given ∈ texts, hasOrderBy given = true := by
  constructor
  · intro hwords
    by_contra hnone
    have hunended := h.unended (by simpa using hnone)
    exact hunended.not_infix (Dialect.hasOrderBy_iff.mp hwords)
  · rintro ⟨given, hmem, hgiven⟩
    exact h.hasOrderBy_of_mem hmem hgiven

end Told

end Dialect

open Dialect

/-! ## The texts of a query -/

def ColumnRef.texts (c : ColumnRef) : List String := c.qualifier.toList ++ [c.column]

def ColumnTest.texts (t : ColumnTest) : List String := t.left.texts ++ t.right.texts

def Condition.texts {τ : Type} (read : τ → List String) (c : Condition τ) : List String :=
  c.tests.flatMap read

def Join.texts (j : Join) : List String :=
  [j.table, j.aliasName] ++ j.condition.texts ColumnTest.texts

namespace Query

/-- The names of a column, where the query has it. -/
def columnTexts (q : Query) (entity : Option EntityClass) (property : String) : List String :=
  (q.column entity property).toOption.elim [] ColumnRef.texts

/-- The names in a part of the projection, or the expression that it is. -/
def partTexts (q : Query) : SelectionPart → List String
  | .column property entity aliasName =>
    q.columnTexts entity property ++ (aliasName.filter (· ≠ "")).toList
  | .star entity => ((q.source entity).toOption.bind Source.qualifier).toList
  | .aggregate _ _ property entity aliasName =>
    property.elim [] (q.columnTexts entity) ++ (aliasName.filter (· ≠ "")).toList
  | .computed expression => [expression]

def projectionTexts (q : Query) : List String :=
  if q.projection = [] then q.baseSource.qualifier.toList else q.projection.flatMap q.partTexts

/-- The names of tables, aliases and columns behind the projection. -/
def fromTexts (q : Query) : List String :=
  q.base.table :: q.baseSource.qualifier.toList ++ q.joins.flatMap Join.texts
    ++ q.condition.texts fun t => t.column.texts

/-- The names and expressions in a selection, without those of its order. -/
def texts (q : Query) : List String := q.projectionTexts ++ q.fromTexts

end Query

/-! ## How they are put together -/

theorem ColumnRef.told (c : ColumnRef) : Told c.texts (sqlServer.columnText c) := by
  rcases c with ⟨_ | qualifier, column⟩
  · exact .name column
  · exact ((Told.name qualifier).before (by decide)).append (.name column)

theorem Comparison.not_mem_text (op : Comparison) : 'y' ∉ folded op.text := by
  cases op <;> decide

theorem Sql.not_mem_markerList (count : Nat) : 'y' ∉ folded (Sql.markerList count) := by
  induction count with
  | zero => decide
  | succ n ih =>
      cases n with
      | zero => decide
      | succ n =>
          have hmarker : 'y' ∉ folded (Sql.questionMark ++ ", ") := by decide
          have hlist : Sql.markerList (n + 2) =
              Sql.questionMark ++ ", " ++ Sql.markerList (n + 1) := Text.joined_cons_cons ..
          rw [hlist, folded_append, List.mem_append]
          exact not_or.mpr ⟨hmarker, ih⟩

theorem Test.told (t : Test) : Told t.column.texts (t.text sqlServer) := by
  cases t with
  | compare column op value =>
      exact (((column.told.before (by decide)).before op.not_mem_text).before
        (by decide)).before (by decide)
  | isNull column | isNotNull column => exact column.told.before (by decide)
  | compareNull column op =>
      exact ((column.told.before (by decide)).before op.not_mem_text).before (by decide)
  | among column values =>
      refine ((column.told.before (by decide)).before ?_).before (by decide)
      split
      · decide
      · exact Sql.not_mem_markerList _

theorem ColumnTest.told (t : ColumnTest) : Told t.texts (t.text sqlServer) := by
  exact (((t.left.told.before (by decide)).before t.op.not_mem_text).before
    (by decide)).append t.right.told

theorem Piece.told {τ : Type} {read : τ → List String} {write : τ → String}
    (h : ∀ t, Told (read t) (write t)) (p : Piece τ) :
    Told (p.test?.elim [] read) (p.text write) := by
  cases p with
  | test t => exact h t
  | and => exact .keyword " AND " (by decide)
  | or => exact .keyword " OR " (by decide)
  | opening => exact .keyword "(" (by decide)
  | closing => exact .keyword ")" (by decide)

theorem Condition.told {τ : Type} {read : τ → List String} {write : τ → String}
    (h : ∀ t, Told (read t) (write t)) (c : Condition τ) : Told (c.texts read) (c.text write) := by
  induction c with
  | nil => exact .keyword "" (by decide)
  | cons p c ih =>
      have htexts : Condition.texts read (p :: c) =
          p.test?.elim [] read ++ Condition.texts read c := by
        cases p <;> rfl
      rw [htexts, Condition.text_cons]
      exact (p.told h).append ih

theorem Join.told (j : Join) : Told j.texts (sqlServer.joinText j) := by
  have hkind : 'y' ∉ folded (" " ++ j.kind.text ++ " ") := by cases j.kind <;> decide
  have htable := ((Told.name j.table).behind hkind).before (b := " ") (by decide)
  have halias := (htable.append (.name j.aliasName)).before (b := " ON ") (by decide)
  exact halias.append (j.condition.told ColumnTest.told)

theorem told_joins (joins : List Join) :
    Told (joins.flatMap Join.texts) (Text.joined "" (joins.map sqlServer.joinText)) := by
  induction joins with
  | nil => exact .keyword "" (by decide)
  | cons j joins ih =>
      rw [List.map_cons, Text.joined_empty_cons, List.flatMap_cons]
      exact j.told.append ih

namespace Query

variable {q : Query}

theorem told_whereText (hd : q.dialect = sqlServer) :
    Told (q.condition.texts fun t => t.column.texts) q.whereText := by
  unfold whereText
  split
  · rename_i hempty
    rw [hempty]
    exact .keyword "" (by decide)
  · rw [conditionText, hd]
    exact (q.condition.told Test.told).behind (by decide)

theorem told_fromText (hd : q.dialect = sqlServer) : Told q.fromTexts q.fromText := by
  have halias : Told q.baseSource.qualifier.toList
      (q.baseSource.qualifier.elim "" fun name => " " ++ sqlServer.quote name) := by
    cases q.baseSource.qualifier with
    | none => exact .keyword "" (by decide)
    | some name => exact (Told.name name).behind (by decide)
  have hbase := ((Told.name q.base.table).behind (a := " FROM ") (by decide)).append halias
  rw [fromText, hd]
  exact (hbase.append (told_joins q.joins)).append (told_whereText hd)

/-! ### The projection -/

theorem told_withName (hd : q.dialect = sqlServer) {texts : List String} {text : String}
    (h : Told texts text) (aliasName : Option String) :
    Told (texts ++ (aliasName.filter (· ≠ "")).toList) (q.withName text aliasName) := by
  unfold withName
  cases aliasName.filter (· ≠ "") with
  | none => simpa using h
  | some name =>
      rw [hd]
      exact (h.before (b := " AS ") (by decide)).append (.name name)

theorem told_starText (qualifier : Option String) :
    Told qualifier.toList (sqlServer.starText qualifier) := by
  cases qualifier with
  | none => exact .keyword "*" (by decide)
  | some name => exact (Told.name name).before (by decide)

theorem columnTexts_eq {entity : Option EntityClass} {property : String} {column : ColumnRef}
    (h : q.column entity property = .ok column) : q.columnTexts entity property = column.texts := by
  rw [columnTexts, h]
  rfl

theorem told_aggregate {texts : List String} {inner : String} (h : Told texts inner)
    (function : AggregateFunction) (distinct : Bool) :
    Told texts (function.name ++ "(" ++ (if distinct then "DISTINCT " else "") ++ inner ++ ")") := by
  refine (h.behind ?_).before (by decide)
  cases function <;> cases distinct <;> decide

/-- A part of the projection behind one of the leads of an expression. -/
theorem told_partText (hd : q.dialect = sqlServer) {lead : String}
    (hlead : lead ∈ ["SELECT ", ", "]) {part : SelectionPart} {text : String}
    (h : q.partText part = .ok text) : Told (q.partTexts part) (lead ++ text) := by
  have hplain : 'y' ∉ folded lead := by
    simp only [List.mem_cons, List.not_mem_nil, or_false] at hlead
    rcases hlead with rfl | rfl <;> decide
  cases part with
  | column property entity aliasName =>
      obtain ⟨column, hcolumn, h⟩ := bind_eq_ok.mp h
      rw [← Except.ok.inj h, partTexts, columnTexts_eq hcolumn, hd]
      exact (told_withName hd column.told aliasName).behind hplain
  | star entity =>
      obtain ⟨source, hsource, h⟩ := bind_eq_ok.mp h
      rw [← Except.ok.inj h, partTexts, hsource, hd]
      exact (told_starText source.qualifier).behind hplain
  | aggregate function distinct property entity aliasName =>
      cases property with
      | none =>
          rw [← Except.ok.inj h]
          have hinner := told_aggregate (told_starText none) function distinct
          exact (told_withName hd hinner aliasName).behind hplain
      | some property =>
          obtain ⟨inner, hinner, h⟩ := bind_eq_ok.mp h
          obtain ⟨column, hcolumn, rfl⟩ := map_eq_ok.mp hinner
          rw [← Except.ok.inj h, partTexts, Option.elim_some, columnTexts_eq hcolumn, hd]
          exact (told_withName hd (told_aggregate column.told function distinct)
            aliasName).behind hplain
  | computed expression =>
      rw [← Except.ok.inj h]
      exact .expression hlead expression

theorem told_parts (hd : q.dialect = sqlServer) {lead : String} (hlead : lead ∈ ["SELECT ", ", "])
    {parts : Projection} (hne : parts ≠ []) {texts : List String}
    (h : parts.mapM q.partText = .ok texts) :
    Told (parts.flatMap q.partTexts) (lead ++ Text.joined ", " texts) := by
  induction parts generalizing lead texts with
  | nil => exact absurd rfl hne
  | cons part parts ih =>
      rw [List.mapM_cons] at h
      obtain ⟨text, htext, h⟩ := bind_eq_ok.mp h
      obtain ⟨rest, hrest, h⟩ := bind_eq_ok.mp h
      have hpart := told_partText hd hlead htext
      rw [← Except.ok.inj h, List.flatMap_cons]
      cases parts with
      | nil =>
          obtain rfl : [] = rest := Except.ok.inj hrest
          simpa [Text.joined] using hpart
      | cons next parts =>
          have hcomma : ", " ∈ ["SELECT ", ", "] := by simp
          have htail := ih hcomma (List.cons_ne_nil _ _) hrest
          rw [List.mapM_cons] at hrest
          obtain ⟨second, -, hrest⟩ := bind_eq_ok.mp hrest
          obtain ⟨others, -, hrest⟩ := bind_eq_ok.mp hrest
          obtain rfl : second :: others = rest := Except.ok.inj hrest
          simpa [Text.joined_cons_cons, String.append_assoc] using hpart.append htail

theorem told_projectionText (hd : q.dialect = sqlServer) {text : String}
    (h : q.projectionText = .ok text) : Told q.projectionTexts ("SELECT " ++ text) := by
  unfold projectionText at h
  unfold projectionTexts
  split at h
  · rename_i hempty
    rw [← Except.ok.inj h, if_pos hempty, hd]
    exact (told_starText _).behind (by decide)
  · rename_i hne
    obtain ⟨texts, htexts, rfl⟩ := map_eq_ok.mp h
    rw [if_neg hne]
    exact told_parts hd (by simp) hne htexts

/-- A selection without its order has the words of an order where one of its names and expressions has
them. -/
theorem hasOrderBy_iff (hd : q.dialect = sqlServer) {text : String}
    (h : q.projectionText = .ok text) :
    hasOrderBy ("SELECT " ++ text ++ q.fromText) = true ↔
      ∃ given ∈ q.texts, hasOrderBy given = true :=
  ((told_projectionText hd h).append (told_fromText hd)).hasOrderBy_iff

/-! ## The order in front of the page -/

/-- What stands between a selection and its page. -/
def pageOrder (q : Query) : String :=
  if q.order ≠ [] then " ORDER BY " ++ Text.joined ", " (q.order.map q.dialect.orderTermText)
  else if ∀ text ∈ q.texts, hasOrderBy text = false then " ORDER BY (SELECT 1)"
  else ""

theorem hasOrderBy_ordered (selection terms : String) :
    hasOrderBy (selection ++ (" ORDER BY " ++ terms)) = true := by
  have hlead : hasOrderBy " ORDER BY " = true := by decide
  exact hasOrderBy_append_right (hasOrderBy_append_left hlead)

/-- An order that was asked for stands behind the selection already; the constant one is added. -/
theorem ordering_eq_pageOrder {selection : String}
    (h : hasOrderBy selection = true ↔ ∃ given ∈ q.texts, hasOrderBy given = true) :
    selection ++ q.orderText?.elim "" (" ORDER BY " ++ ·) ++
        sqlServer.ordering (selection ++ q.orderText?.elim "" (" ORDER BY " ++ ·)) q.orderText? =
      selection ++ q.pageOrder := by
  by_cases hne : q.order = []
  · have horder : q.orderText? = none := if_pos hne
    rw [horder, Option.elim_none, String.append_empty, ordering, pageOrder,
      if_neg (not_not_intro hne)]
    by_cases hnone : ∀ given ∈ q.texts, hasOrderBy given = false
    · have hplain : ¬hasOrderBy selection = true := by simpa [h] using hnone
      rw [if_neg hplain, if_pos hnone]
      rfl
    · have hfound : hasOrderBy selection = true := by simpa [h] using hnone
      rw [if_pos hfound, if_neg hnone]
  · have horder : q.orderText? = some (Text.joined ", " (q.order.map q.dialect.orderTermText)) :=
      if_neg hne
    rw [horder, Option.elim_some, ordering, if_pos (hasOrderBy_ordered ..), pageOrder, if_pos hne,
      String.append_empty]

/-- The clause of a page begins with its offset. -/
theorem prefix_offsetFetch {w : Window} {page : String} (h : offsetFetch w = .ok page) :
    " OFFSET ".toList <+: page.toList := by
  rw [offsetFetch_eq] at h
  obtain ⟨offset, -, h⟩ := bind_eq_ok.mp h
  obtain ⟨limit, -, h⟩ := bind_eq_ok.mp h
  rw [← Except.ok.inj h]
  simp [offsetClause]

/-! ## The order that was asked for -/

/-- The term of an order that a request adds, if it is not refused. -/
def Request.terms (p : Session × Query) (result : Except Failure (Option String)) :
    Request → List OrderTerm
  | .build (.orderBy property ascending entity) =>
    match result, p.2.column entity property with
    | .ok _, .ok column => [⟨column, ascending⟩]
    | _, _ => []
  | _ => []

/-- The terms of the order that was asked of a query. -/
def terms (steps : List Step) : List OrderTerm :=
  steps.flatMap fun step => step.request.terms step.before step.result

theorem Effect.order_eq {p : Session × Query} {r : Request}
    {result : Except Failure (Option String)} {q : Query} (h : Effect p r result q) :
    q.order = p.2.order ++ r.terms p result := by
  cases h with
  | rested hr =>
      have hnone : r.terms p result = [] := by
        rcases r with call | _ | _
        · cases call <;> first | rfl | contradiction
        · rfl
        · rfl
      rw [hnone, List.append_nil]
  | @refused call e hopened hasked =>
      have hnone : (Request.build call).terms p (.error e) = [] := by cases call <;> rfl
      rw [hnone, List.append_nil]
  | ordered hcolumn => simp [Request.terms, hcolumn]
  | _ => exact (List.append_nil _).symm

theorem History.order_eq {steps : List Step} {q : Query} (h : History steps q) :
    q.order = terms steps := by
  induction h with
  | start hrun =>
      obtain ⟨d, base, rfl⟩ := eq_start_of_query hrun
      rfl
  | request _ r s ih =>
      rw [(r.effect s _).order_eq, ih, terms, terms, List.flatMap_append, List.flatMap_singleton]
      rfl

/-- A selection with a limit or an offset on SQL Server has its page behind an order: behind the terms
that were asked for, whatever else was asked and refused, and behind the constant one if there are none
and no name or expression of the selection has the words of an order in it. -/
theorem orders_page (hd : q.dialect = sqlServer) (hw : q.window.isOpen = false) :
    (q.selectText = do
      let projection ← q.projectionText
      let page ← offsetFetch q.window
      return "SELECT " ++ projection ++ q.fromText ++ q.pageOrder ++ page) ∧
    (∀ page, offsetFetch q.window = .ok page → " OFFSET ".toList <+: page.toList) ∧
    ∀ steps, History steps q → q.order = terms steps := by
  refine ⟨?_, fun _ => prefix_offsetFetch, fun _ h => h.order_eq⟩
  unfold selectText
  cases hprojection : q.projectionText with
  | error e => rfl
  | ok projection =>
      have horder := ordering_eq_pageOrder (hasOrderBy_iff hd hprojection)
      change q.dialect.paginate _ _ _ = _
      rw [hd, paginate_of_not_isOpen _ _ _ hw, horder]
      rfl

/-- A query on items behind some requests, on SQL Server. -/
def serverItemsAfter (requests : List Request) : Query :=
  (left (default, start .sqlServer TableMap.itemMap) requests).2

/-- The first items, under the name of their border. -/
def firstItems : List Request :=
  [.build (.setAlias (some "border")), .build (.limit (.scalar (.int 5)))]

theorem orders_page_items :
    (serverItemsAfter firstItems).selectText.toOption =
      some ("SELECT [border].* FROM [item] [border]"
        ++ " ORDER BY (SELECT 1) OFFSET 0 ROWS FETCH NEXT 5 ROWS ONLY") := by
  have hserver : (serverItemsAfter firstItems).dialect = .sqlServer := by decide +kernel
  have hopen : (serverItemsAfter firstItems).window.isOpen = false := by decide +kernel
  rw [(orders_page hserver hopen).1]
  decide +kernel

/-- Items with their place by number. -/
def placedItems : List Request :=
  [.build (.select [.part (.computed "ROW_NUMBER() OVER (ORDER BY id) AS n")]),
    .build (.limit (.scalar (.int 5)))]

/-- The words inside an expression are taken for an order of the rows. -/
theorem pages_unordered :
    (serverItemsAfter placedItems).selectText.toOption =
      some ("SELECT ROW_NUMBER() OVER (ORDER BY id) AS n FROM [item]"
        ++ " OFFSET 0 ROWS FETCH NEXT 5 ROWS ONLY") := by
  decide +kernel

end Query

end RelationalMapper
