import RelationalMapper.Proofs.Dialect.Update
import RelationalMapper.Proofs.Query.Reached

/-! # The words of a query's statements

The words that divide a statement stand in it once, and where they belong: none of them is a word of a
projection, a join or an order, and only subqueries without rows bring one into a condition. -/

namespace RelationalMapper

open Sql

/-- The keywords that divide a selection, and marks. -/
def dividers : List Word := .mark :: ["FROM", "WHERE", "ORDER", "LIMIT", "OFFSET"].map .symbol

/-- The keywords that end a condition. -/
def endings : List Word := ["ORDER", "LIMIT", "OFFSET"].map .symbol

/-- The keywords that join tables. -/
def joiners : List Word := ["JOIN", "INNER", "LEFT", "RIGHT", "OUTER"].map .symbol

/-! ## Columns and tests -/

namespace ColumnRef

variable (c : ColumnRef)

theorem apart_written : c.written.Apart := by
  unfold written
  split
  · exact .cons_of_endsOpen rfl (.cons_of_endsOpen (by decide) (.singleton _))
  · exact .singleton _

theorem opens_written : c.written.Opens := by
  unfold written
  split <;> simp [Fragment.opensApart]

theorem avoids_written {ks : List Word} (hdot : .symbol "." ∉ ks) (hnames : ∀ n, .name n ∉ ks) :
    Avoids ks (c.written.flatMap Fragment.words) := by
  have hwords : (Fragment.plain ".").words = [.symbol "."] := by decide
  have hname (n : String) : (Fragment.name n).words = [.name n] := rfl
  unfold written
  split <;> simp [hwords, hname, hdot, hnames]

theorem omits_text (d : Dialect) : Omits d.quotes dividers (d.columnText c) :=
  ⟨_, ⟨c.written, c.clean_written, c.apart_written, c.chars_written d, rfl⟩,
    c.avoids_written (by decide) (by simp [dividers])⟩

end ColumnRef

theorem Sql.Written.apart_markers (count : Nat) : (markers count).Apart :=
  apart_joined (by decide) (by decide) fun w hw => by
    rw [List.eq_of_mem_replicate hw]
    exact .singleton _

namespace Test

/-- A test is a column with something behind it that no word goes on in. -/
theorem written_cases (t : Test) : ∃ (c : ColumnRef) (w : Written), t.written = c.written ++ w ∧
    w.Apart ∧ w.Opens ∧ Avoids endings (w.flatMap Fragment.words) := by
  cases t with
  | compare column op value =>
      refine ⟨column, [.plain (" " ++ op.text ++ " "), .mark], rfl,
        .cons_of_endsOpen ?_ (.singleton _), (Written.opens_cons ..).mpr ?_, ?_⟩
      all_goals cases op <;> decide
  | isNull column =>
      exact ⟨column, [.plain " IS NULL"], rfl, .singleton _, (Written.opens_cons ..).mpr (by decide),
        by decide⟩
  | isNotNull column =>
      exact ⟨column, [.plain " IS NOT NULL"], rfl, .singleton _,
        (Written.opens_cons ..).mpr (by decide), by decide⟩
  | compareNull column op =>
      refine ⟨column, [.plain (" " ++ op.text ++ " NULL")], rfl, .singleton _,
        (Written.opens_cons ..).mpr ?_, ?_⟩
      all_goals cases op <;> decide
  | among column values =>
      refine ⟨column, _, rfl, .cons_of_endsOpen (by decide) (Written.Apart.append ?_ (.singleton _)
        ((Written.opens_cons ..).mpr (by decide))), (Written.opens_cons ..).mpr (by decide), ?_⟩
      · split
        · exact .singleton _
        · exact Written.apart_markers _
      · have hin : Avoids endings (Fragment.plain " IN (").words := by decide
        have hend : Avoids endings (Fragment.plain ")").words := by decide
        have hlist : Avoids endings ((if values = [] then [.plain noRows]
            else Written.markers values.length).flatMap Fragment.words) := by
          split
          · decide
          · intro word hword
            rw [Dialect.words_markers] at hword
            rcases Dialect.mem_markWords hword with rfl | rfl <;> decide
        simp only [List.flatMap_cons, List.flatMap_append, List.flatMap_nil, List.append_nil,
          avoids_append]
        exact ⟨hin, hlist, hend⟩

theorem opens_written (t : Test) : t.written.Opens := by
  obtain ⟨c, w, hw, -, hopens, -⟩ := t.written_cases
  rw [hw]
  exact c.opens_written.append hopens

theorem apart_written (t : Test) : t.written.Apart := by
  obtain ⟨c, w, hw, hapart, hopens, -⟩ := t.written_cases
  rw [hw]
  exact c.apart_written.append hapart hopens

theorem avoids_written (t : Test) : Avoids endings (t.written.flatMap Fragment.words) := by
  obtain ⟨c, w, hw, -, -, havoids⟩ := t.written_cases
  rw [hw, List.flatMap_append, avoids_append]
  exact ⟨c.avoids_written (by decide) (by simp [endings]), havoids⟩

end Test

namespace ColumnTest

variable (t : ColumnTest)

theorem opens_written : t.written.Opens :=
  t.left.opens_written.append ((Written.opens_cons ..).mpr (by cases t.op <;> decide))

theorem apart_written : t.written.Apart :=
  t.left.apart_written.append (.cons_of_endsOpen (by cases t.op <;> decide) t.right.apart_written)
    ((Written.opens_cons ..).mpr (by cases t.op <;> decide))

theorem avoids_written : Avoids (dividers ++ joiners) (t.written.flatMap Fragment.words) := by
  have hop : Avoids (dividers ++ joiners) (Fragment.plain (" " ++ t.op.text ++ " ")).words := by
    cases t.op <;> decide
  have hcolumn (c : ColumnRef) : Avoids (dividers ++ joiners) (c.written.flatMap Fragment.words) :=
    c.avoids_written (by decide) (by simp [dividers, joiners])
  simp only [written, List.flatMap_append, List.flatMap_cons, avoids_append]
  exact ⟨hcolumn t.left, hop, hcolumn t.right⟩

end ColumnTest

/-! ### The words of tests -/

def ColumnRef.words (c : ColumnRef) : List Word :=
  match c.qualifier with
  | some name => [.name name, .symbol ".", .name c.column]
  | none => [.name c.column]

theorem ColumnRef.words_written (c : ColumnRef) : c.written.flatMap Fragment.words = c.words := by
  have hdot : (Fragment.plain ".").words = [.symbol "."] := by decide
  have hname (n : String) : (Fragment.name n).words = [.name n] := rfl
  unfold written words
  cases c.qualifier <;> simp [hdot, hname]

def Comparison.words : Comparison → List Word
  | equal => [.symbol "="]
  | notEqual => [.symbol "<", .symbol ">"]
  | greater => [.symbol ">"]
  | greaterOrEqual => [.symbol ">", .symbol "="]
  | less => [.symbol "<"]
  | lessOrEqual => [.symbol "<", .symbol "="]
  | like => [.symbol "LIKE"]

theorem Comparison.words_plain (op : Comparison) :
    (Fragment.plain (" " ++ op.text ++ " ")).words = op.words := by
  cases op <;> decide

namespace Test

def column : Test → ColumnRef
  | compare column _ _ | isNull column | isNotNull column | compareNull column _ | among column _ =>
    column

theorem column_comparison (column : ColumnRef) (op : Comparison) (value : Value) :
    (comparison column op value).column = column := by
  unfold comparison
  split
  · cases op <;> rfl
  · rfl

/-- What stands behind the column of a test. -/
def predicateWords : Test → List Word
  | compare _ op _ => op.words ++ [.mark]
  | isNull _ => [.symbol "IS", .symbol "NULL"]
  | isNotNull _ => [.symbol "IS", .symbol "NOT", .symbol "NULL"]
  | compareNull _ op => op.words ++ [.symbol "NULL"]
  | among _ values => .symbol "IN" :: .symbol "(" ::
    ((if values = [] then textWords noRows.toList else Dialect.markWords values.length)
      ++ [.symbol ")"])

theorem words_written (t : Test) :
    t.written.flatMap Fragment.words = t.column.words ++ t.predicateWords := by
  cases t with
  | compare column op value =>
      rw [written, List.flatMap_append, column.words_written, List.flatMap_cons, op.words_plain]
      rfl
  | isNull column =>
      have hnull : [Fragment.plain " IS NULL"].flatMap Fragment.words =
          [.symbol "IS", .symbol "NULL"] := by decide
      rw [written, List.flatMap_append, column.words_written, hnull]
      rfl
  | isNotNull column =>
      have hnull : [Fragment.plain " IS NOT NULL"].flatMap Fragment.words =
          [.symbol "IS", .symbol "NOT", .symbol "NULL"] := by decide
      rw [written, List.flatMap_append, column.words_written, hnull]
      rfl
  | compareNull column op =>
      have hnull : [Fragment.plain (" " ++ op.text ++ " NULL")].flatMap Fragment.words =
          op.words ++ [.symbol "NULL"] := by cases op <;> decide
      rw [written, List.flatMap_append, column.words_written, hnull]
      rfl
  | among column values =>
      have hin : (Fragment.plain " IN (").words = [.symbol "IN", .symbol "("] := by decide
      have hend : [Fragment.plain ")"].flatMap Fragment.words = [.symbol ")"] := by decide
      rw [written, List.flatMap_append, column.words_written, List.flatMap_cons, hin,
        List.flatMap_append, hend]
      refine congrArg _ ?_
      by_cases h : values = []
      · simp [predicateWords, h, Fragment.words]
      · simp [predicateWords, h, Dialect.words_markers]

end Test

def ColumnTest.words (t : ColumnTest) : List Word := t.left.words ++ t.op.words ++ t.right.words

theorem ColumnTest.words_written (t : ColumnTest) :
    t.written.flatMap Fragment.words = t.words := by
  rw [written, List.flatMap_append, List.flatMap_cons, t.left.words_written, t.right.words_written,
    t.op.words_plain, words, List.append_assoc]

/-! ## Conditions -/

namespace Condition

variable {τ : Type} {write : τ → Written}

theorem opens_written (h : ∀ t, (write t).Opens) (c : Condition τ) :
    Written.Opens (c.written write) := by
  induction c with
  | nil => exact Written.opens_nil
  | cons p c ih =>
      have hp : (p.written write).Opens := by
        cases p with
        | test t => exact h t
        | _ => exact (Written.opens_cons ..).mpr (by decide)
      exact hp.append ih

theorem apart_written (h : ∀ t, (write t).Apart) (ho : ∀ t, (write t).Opens) (c : Condition τ) :
    Written.Apart (c.written write) := by
  induction c with
  | nil => exact .nil
  | cons p c ih =>
      have hp : (p.written write).Apart := by
        cases p with
        | test t => exact h t
        | _ => exact .singleton _
      exact hp.append ih (opens_written ho c)

theorem avoids_written {ks : List Word} (h : ∀ t, Avoids ks ((write t).flatMap Fragment.words))
    (hand : .symbol "AND" ∉ ks) (hor : .symbol "OR" ∉ ks) (hopening : .symbol "(" ∉ ks)
    (hclosing : .symbol ")" ∉ ks) (c : Condition τ) :
    Avoids ks ((c.written write).flatMap Fragment.words) := by
  have hwords : (Fragment.plain " AND ").words = [.symbol "AND"] ∧
      (Fragment.plain " OR ").words = [.symbol "OR"] ∧ (Fragment.plain "(").words = [.symbol "("] ∧
      (Fragment.plain ")").words = [.symbol ")"] := by decide
  induction c with
  | nil => exact avoids_nil ks
  | cons p c ih =>
      have hp : Avoids ks ((p.written write).flatMap Fragment.words) := by
        cases p with
        | test t => exact h t
        | _ => simp [Piece.written, hwords, hand, hor, hopening, hclosing]
      rw [written, List.flatMap_cons, List.flatMap_append]
      exact avoids_append.mpr ⟨hp, ih⟩

theorem count_mark_written (c : Condition Test) :
    (c.written Test.written).count .mark = c.params.length := by
  induction c with
  | nil => rfl
  | cons p c ih =>
      cases p with
      | test t =>
          have ht := t.count_mark_written
          simp only [written, List.flatMap_cons, List.count_append] at ih ⊢
          simp [Piece.written, ht, ih, params, tests, Piece.test?]
      | _ =>
          refine Eq.trans ?_ ih
          simp [written, Piece.written]

end Condition

/-! ## Joins -/

namespace Join

variable (j : Join)

/-- The words of the condition of a join. -/
def conditionWords : List Word :=
  (j.condition.written ColumnTest.written).flatMap Fragment.words

theorem avoids_conditionWords : Avoids (dividers ++ joiners) j.conditionWords :=
  j.condition.avoids_written ColumnTest.avoids_written (by decide) (by decide) (by decide)
    (by decide)

/-- The words of a join. -/
def words : List Word :=
  textWords j.kind.text.toList ++
    .name j.table :: .name j.aliasName :: .symbol "ON" :: j.conditionWords

theorem avoids_words : Avoids dividers j.words := by
  have hkind : Avoids dividers (textWords j.kind.text.toList) := by cases j.kind <;> decide
  have hcondition : Avoids dividers j.conditionWords := j.avoids_conditionWords.left
  have hon : .symbol "ON" ∉ dividers := by decide
  have hname (n : String) : .name n ∉ dividers := by simp [dividers]
  simp only [words, avoids_append, avoids_cons]
  exact ⟨hkind, hname _, hname _, hon, hcondition⟩

theorem reads_condition (d : Dialect) (hj : j.condition.Spaced) :
    Reads d.quotes (j.condition.text (ColumnTest.text d)) j.conditionWords :=
  ⟨_, Condition.clean_written_of_spaced ColumnTest.clean_written hj,
    Condition.apart_written ColumnTest.apart_written ColumnTest.opens_written j.condition,
    Condition.chars_written (ColumnTest.chars_written d) j.condition, rfl⟩

theorem follows_joinText (d : Dialect) (hj : j.condition.Spaced) :
    Follows d.quotes (d.joinText j) j.words := by
  have hkind : textWords (" " ++ j.kind.text ++ " ").toList = textWords j.kind.text.toList := by
    cases j.kind <;> decide
  have htable := (d.reads_quote j.table).following (" " ++ j.kind.text ++ " ")
    (by cases j.kind <;> decide) (by cases j.kind <;> decide) (by cases j.kind <;> decide)
  have halias := (d.reads_quote j.aliasName).following " " (by decide) (by decide) (by decide)
  have hon := (j.reads_condition d hj).following " ON " (by decide) (by decide) (by decide)
  have htext : d.joinText j = (" " ++ j.kind.text ++ " " ++ d.quote j.table) ++
      (" " ++ d.quote j.aliasName) ++ (" ON " ++ j.condition.text (ColumnTest.text d)) := by
    simp [Dialect.joinText, String.append_assoc]
  have hall := (htable.append halias).append hon
  have hblank : textWords " ".toList = [] := by decide
  have hkeyword : textWords " ON ".toList = [.symbol "ON"] := by decide
  rw [hkind, hblank, hkeyword, ← htext] at hall
  simpa [words] using hall

/-! ### Between the keywords of joins -/

/-- What stands in front of the keyword of a join. -/
def kindWords : List Word := (textWords j.kind.text.toList).dropLast

/-- What stands behind the keyword of a join. -/
def tableWords : List Word :=
  .name j.table :: .name j.aliasName :: .symbol "ON" :: j.conditionWords

theorem words_eq : j.words = j.kindWords ++ .symbol "JOIN" :: j.tableWords := by
  have hkind : textWords j.kind.text.toList = j.kindWords ++ [.symbol "JOIN"] := by
    unfold kindWords
    cases j.kind <;> decide
  rw [words, hkind, List.append_assoc]
  rfl

theorem mem_kindWords : ∀ w ∈ j.kindWords, w ∈ joiners ∧ w ≠ .symbol "JOIN" := by
  unfold kindWords
  cases j.kind <;> decide

/-- What the joins begin with, up to the first keyword of a join. -/
def leading : List Join → List Word
  | [] => []
  | j :: _ => j.kindWords

/-- What stands between the keywords of the joins and behind the last one. -/
def tableParts : List Join → List (List Word)
  | [] => []
  | j :: joins => (j.tableWords ++ leading joins) :: tableParts joins

theorem mem_leading (joins : List Join) :
    ∀ w ∈ leading joins, w ∈ joiners ∧ w ≠ .symbol "JOIN" := by
  cases joins with
  | nil => exact nofun
  | cons j joins => exact j.mem_kindWords

/-- The keywords of joins divide them, behind something that has no such keyword. -/
theorem splitOn_words (joins : List Join) {before : List Word}
    (hbefore : .symbol "JOIN" ∉ before) :
    (before ++ joins.flatMap words).splitOn (.symbol "JOIN") =
      (before ++ leading joins) :: tableParts joins := by
  induction joins generalizing before with
  | nil => simpa [leading, tableParts] using List.splitOn_eq_singleton hbefore
  | cons j joins ih =>
      have hfront : .symbol "JOIN" ∉ before ++ j.kindWords := fun h =>
        (List.mem_append.mp h).elim hbefore fun hkind => (j.mem_kindWords _ hkind).2 rfl
      have htable : .symbol "JOIN" ∉ j.tableWords := by
        have hcondition : .symbol "JOIN" ∉ j.conditionWords := fun h =>
          j.avoids_conditionWords.right _ h (by decide)
        simpa [tableWords] using hcondition
      have hnext : before ++ (j :: joins).flatMap words = (before ++ j.kindWords) ++
          .symbol "JOIN" :: (j.tableWords ++ joins.flatMap words) := by
        simp [words_eq]
      rw [hnext, List.splitOn_append_cons_self_of_not_mem hfront, ih htable]
      rfl
end Join

namespace Query

/-! ## The condition and the joined tables -/

/-- The words of the condition. -/
def conditionWords (q : Query) : List Word :=
  (q.condition.written Test.written).flatMap Fragment.words

theorem reads_condition (q : Query) :
    Reads q.dialect.quotes q.conditionText q.conditionWords :=
  ⟨_, q.condition.clean_written, q.condition.apart_written Test.apart_written Test.opens_written,
    Condition.chars_written (Test.chars_written q.dialect) q.condition, rfl⟩

theorem avoids_conditionWords (q : Query) : Avoids endings q.conditionWords :=
  q.condition.avoids_written Test.avoids_written (by decide) (by decide) (by decide) (by decide)

theorem count_mark_conditionWords (q : Query) :
    q.conditionWords.count .mark = q.params.length := by
  rw [conditionWords, count_mark_words, Condition.count_mark_written]
  rfl

theorem follows_joins (d : Dialect) {joins : List Join} (h : JoinsSpaced joins) :
    Follows d.quotes (Text.joined "" (joins.map d.joinText)) (joins.flatMap Join.words) := by
  induction joins with
  | nil => exact follows_empty _
  | cons j joins ih =>
      have hj := j.follows_joinText d (h j List.mem_cons_self)
      have hrest := ih fun j' hj' => h j' (List.mem_cons_of_mem j hj')
      rw [List.map_cons, Text.joined_empty_cons, List.flatMap_cons]
      exact hj.append hrest

/-! ## Projections and orders -/

theorem avoids_name (n : String) : Avoids dividers [.name n] := by simp [dividers]

theorem omits_starText (d : Dialect) (qualifier : Option String) :
    Omits d.quotes dividers (d.starText qualifier) := by
  cases qualifier with
  | none => exact ⟨_, (follows_plain _ "*" (by decide) (by decide)).reads, by decide⟩
  | some name =>
      exact Omits.append_plain ⟨_, d.reads_quote name, avoids_name name⟩ (by decide) (by decide)
        (by decide)

theorem omits_withName (q : Query) {text : String} (h : Omits q.dialect.quotes dividers text)
    (aliasName : Option String) :
    Omits q.dialect.quotes dividers (q.withName text aliasName) := by
  unfold withName
  split
  · rename_i name _
    have hname := (q.dialect.reads_quote name).following " AS " (by decide) (by decide) (by decide)
    have has : Avoids dividers (textWords " AS ".toList) := by decide
    simpa [SelectionPart.named, String.append_assoc] using
      h.append hname (avoids_append.mpr ⟨has, avoids_name name⟩)
  · exact h

theorem omits_aggregate (d : Dialect) (function : AggregateFunction) (distinct : Bool)
    {inner : String} (h : Omits d.quotes dividers inner) :
    Omits d.quotes dividers
      (function.name ++ "(" ++ (if distinct then "DISTINCT " else "") ++ inner ++ ")") := by
  refine (h.behind _ ?_ ?_ ?_).append_plain (by decide) (by decide) (by decide)
  all_goals cases function <;> cases distinct <;> decide

theorem omits_partText {q : Query} {part : SelectionPart} {text : String}
    (hpart : ∀ expression, part ≠ .computed expression) (h : q.partText part = .ok text) :
    Omits q.dialect.quotes dividers text := by
  cases part with
  | column property entity aliasName =>
      obtain ⟨column, -, h⟩ := bind_eq_ok.mp h
      rw [← Except.ok.inj h]
      exact q.omits_withName (column.omits_text q.dialect) aliasName
  | star entity =>
      obtain ⟨source, -, h⟩ := bind_eq_ok.mp h
      rw [← Except.ok.inj h]
      exact omits_starText q.dialect _
  | aggregate function distinct property entity aliasName =>
      cases property with
      | none =>
          rw [← Except.ok.inj h]
          exact q.omits_withName (omits_aggregate q.dialect function distinct
            (omits_starText q.dialect none)) aliasName
      | some p =>
          obtain ⟨inner, hinner, h⟩ := bind_eq_ok.mp h
          obtain ⟨column, -, rfl⟩ := map_eq_ok.mp hinner
          rw [← Except.ok.inj h]
          exact q.omits_withName (omits_aggregate q.dialect function distinct
            (column.omits_text q.dialect)) aliasName
  | computed expression => exact absurd rfl (hpart expression)

theorem omits_projectionText {q : Query} {text : String}
    (hparts : ∀ expression, .computed expression ∉ q.projection)
    (h : q.projectionText = .ok text) : Omits q.dialect.quotes dividers text := by
  unfold projectionText at h
  split at h
  · rw [← Except.ok.inj h]
    exact omits_starText q.dialect _
  · obtain ⟨texts, htexts, h⟩ := map_eq_ok.mp h
    rw [← h]
    refine Omits.joined (by decide) (by decide) (by decide) (by decide) (by decide)
      (forall_of_mapM_ok ?_ htexts)
    rintro part hpart text htext
    exact omits_partText (fun e he => hparts e (he ▸ hpart)) htext

theorem omits_orderTerms (d : Dialect) (terms : List OrderTerm) :
    Omits d.quotes dividers (Text.joined ", " (terms.map d.orderTermText)) := by
  refine Omits.joined (by decide) (by decide) (by decide) (by decide) (by decide) fun text htext => ?_
  obtain ⟨t, -, rfl⟩ := List.mem_map.mp htext
  refine (t.column.omits_text d).append_plain ?_ ?_ ?_
  all_goals cases t.ascending <;> decide

/-! ## Statements -/

/-- What stands behind the tables of a selection: the condition, if there is one. -/
def whereWords (q : Query) : List Word :=
  if q.condition = [] then [] else .symbol "WHERE" :: q.conditionWords

theorem follows_whereText (q : Query) : Follows q.dialect.quotes q.whereText q.whereWords := by
  have hwhere : textWords " WHERE ".toList = [.symbol "WHERE"] := by decide
  unfold whereText whereWords
  split
  · exact follows_empty _
  · have hcondition := q.reads_condition.following " WHERE " (by decide) (by decide) (by decide)
    rwa [hwhere] at hcondition

/-- The base table and its alias. -/
def sourceWords (q : Query) : List Word :=
  .name q.base.table :: q.baseSource.qualifier.toList.map .name

theorem avoids_sourceWords (q : Query) :
    Avoids dividers (q.sourceWords ++ q.joins.flatMap Join.words) := by
  intro word hword
  rcases List.mem_append.mp hword with hword | hword
  · simp only [sourceWords, List.mem_cons, List.mem_map] at hword
    rcases hword with rfl | ⟨name, -, rfl⟩ <;> simp [dividers]
  · obtain ⟨j, -, hword⟩ := List.mem_flatMap.mp hword
    exact j.avoids_words word hword

theorem follows_fromText {q : Query} (h : JoinsSpaced q.joins) :
    Follows q.dialect.quotes q.fromText (.symbol "FROM" ::
      (q.sourceWords ++ q.joins.flatMap Join.words ++ q.whereWords)) := by
  have hfrom : textWords " FROM ".toList = [.symbol "FROM"] := by decide
  have htable := (q.dialect.reads_quote q.base.table).following " FROM "
    (by decide) (by decide) (by decide)
  have halias : Follows q.dialect.quotes
      (q.baseSource.qualifier.elim "" fun name => " " ++ q.dialect.quote name)
      (q.baseSource.qualifier.toList.map .name) := by
    cases q.baseSource.qualifier with
    | none => exact follows_empty _
    | some name =>
        exact (q.dialect.reads_quote name).following " " (by decide) (by decide) (by decide)
  rw [hfrom] at htable
  have hall := ((htable.append halias).append (follows_joins q.dialect h)).append q.follows_whereText
  simpa [fromText, sourceWords] using hall

/-- The terms of an order stand behind their keywords. -/
theorem follows_order (q : Query) :
    ∃ order : Option (List Word), (∀ terms ∈ order, Avoids dividers terms) ∧
      Follows q.dialect.quotes (q.orderText?.elim "" (" ORDER BY " ++ ·))
        (order.elim [] (.symbol "ORDER" :: ·)) := by
  unfold orderText?
  split
  · exact ⟨none, nofun, follows_empty _⟩
  · obtain ⟨terms, hterms, havoids⟩ := omits_orderTerms q.dialect q.order
    refine ⟨some (.symbol "BY" :: terms), ?_,
      hterms.following " ORDER BY " (by decide) (by decide) (by decide)⟩
    rintro _ ⟨⟩
    exact avoids_cons.mpr ⟨by decide, havoids⟩

/-- The words of a selection of all rows. -/
theorem words_selectText {q : Query} {sql : String} (hjoins : JoinsSpaced q.joins)
    (hparts : ∀ expression, .computed expression ∉ q.projection) (hopen : q.window.isOpen = true)
    (h : q.selectText = .ok sql) :
    ∃ (projection : List Word) (order : Option (List Word)), Avoids dividers projection ∧
      (∀ terms ∈ order, Avoids dividers terms) ∧
      Sql.words sql = .symbol "SELECT" :: (projection ++ .symbol "FROM" ::
        (q.sourceWords ++ q.joins.flatMap Join.words ++
          (q.whereWords ++ order.elim [] (.symbol "ORDER" :: ·)))) := by
  obtain ⟨projection, hprojection, h⟩ := bind_eq_ok.mp h
  obtain ⟨row, hrow, hrowAvoids⟩ := omits_projectionText hparts hprojection
  obtain ⟨order, horderAvoids, horder⟩ := q.follows_order
  rw [Dialect.paginate, if_pos hopen] at h
  have hselect := hrow.behind "SELECT " (by decide) (by decide)
  have hall := ((hselect.append (follows_fromText hjoins)).append horder).words_eq
    q.dialect.quotes_mem_all
  rw [Except.ok.inj h] at hall
  have hkeyword : textWords "SELECT ".toList = [.symbol "SELECT"] := by decide
  refine ⟨row, order, hrowAvoids, horderAvoids, ?_⟩
  rw [hall, hkeyword]
  simp

end Query

end RelationalMapper
