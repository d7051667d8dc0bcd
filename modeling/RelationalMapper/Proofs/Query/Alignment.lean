import RelationalMapper.Proofs.Query.History
import RelationalMapper.Proofs.Query.Statement
import RelationalMapper.Proofs.Sql.Format

/-! # Markers and parameters of queries

Every statement of a query has its markers where its assignments and tests are, in the order of the
parameters that these supply. -/

namespace RelationalMapper

open Sql

/-! ## Text around parts that bind values -/

/-- The text does not begin with a name, can be written cleanly and carries these parts. -/
def Sql.Holds (q : Quotes) (text : String) (parts : List Part) : Prop :=
  ∃ w : Written, w.Clean ∧ w.OpensPlain ∧ Written.chars q w = text.toList ∧ Carries q w parts

section Holds

variable {q : Quotes} {a b text lead : String} {parts more : List Part}

theorem Sql.Trails.holds (h : Trails q text) : Holds q text [] := by
  obtain ⟨w, hw, hm, ho, hc⟩ := h
  exact ⟨w, hw, ho, hc, .frame hm⟩

theorem Sql.Holds.append (ha : Holds q a parts) (hb : Holds q b more) :
    Holds q (a ++ b) (parts ++ more) := by
  obtain ⟨v, hv, hvo, hvc, hvp⟩ := ha
  obtain ⟨w, hw, hwo, hwc, hwp⟩ := hb
  exact ⟨v ++ w, hv.append hw hwo, hvo.append hwo, by simp [hvc, hwc], hvp.append hwp⟩

theorem Sql.Holds.after (ha : Trails q a) (hb : Holds q b parts) : Holds q (a ++ b) parts :=
  ha.holds.append hb

theorem Sql.Holds.before (ha : Holds q a parts) (hb : Trails q b) : Holds q (a ++ b) parts := by
  simpa using ha.append hb.holds

/-- Behind plain text, any clean row may stand. -/
theorem Sql.holds_behind {w : Written} (hne : lead ≠ "") (hlead : isPlain lead.toList = true)
    (hw : w.Clean) (hc : Written.chars q w = text.toList) (hp : Carries q w parts) :
    Holds q (lead ++ text) parts :=
  ⟨.plain lead :: w, (Written.clean_plain ..).mpr ⟨hne, hlead, hw⟩,
    (Written.opensPlain_cons ..).mpr rfl, by simp [hc, Fragment.chars],
    hp.prepend (v := [.plain lead]) (by simp)⟩

/-- A statement has its markers in the parts it carries. -/
theorem Sql.Holds.aligned (hq : q ∈ Quotes.all) (h : Holds q text parts) :
    Aligned text (parts.flatMap (·.params)) parts := by
  obtain ⟨w, hw, -, hc, hp⟩ := h
  exact hp.aligned hq hw hc

theorem not_mark_mem_of_words {w : Written} (h : .mark ∉ w.flatMap Fragment.words) : .mark ∉ w :=
  fun hmem => h (List.mem_flatMap.mpr ⟨.mark, hmem, by simp [Fragment.words]⟩)

/-- No mark is written where none is read. -/
theorem Sql.Omits.unmarked {ks : List Word} (h : Omits q ks text) (hks : .mark ∈ ks) :
    Unmarked q text := by
  obtain ⟨_, ⟨w, hw, -, hc, rfl⟩, havoids⟩ := h
  exact ⟨w, hw, not_mark_mem_of_words fun hmem => havoids .mark hmem hks, hc⟩

theorem Sql.Follows.trails {ws : List Word} (h : Follows q text ws) (hws : .mark ∉ ws) :
    Trails q text := by
  obtain ⟨w, hw, -, ho, -, hc, rfl⟩ := h
  exact ⟨w, hw, not_mark_mem_of_words hws, ho, hc⟩

end Holds

namespace Query

/-! ## Reading statements -/

/-- The tests of the condition as parts of a statement. -/
def testParts (q : Query) : List Part := q.condition.tests.map (Test.part q.dialect)

theorem params_eq (q : Query) : q.params = q.testParts.flatMap (·.params) :=
  q.condition.params_eq q.dialect

theorem holds_condition (q : Query) (lead : String) (hne : lead ≠ "")
    (hlead : isPlain lead.toList = true) :
    Holds q.dialect.quotes (lead ++ q.conditionText) q.testParts :=
  holds_behind hne hlead q.condition.clean_written
    (Condition.chars_written (Test.chars_written q.dialect) q.condition)
    (q.condition.carries_written q.dialect)

theorem holds_whereText (q : Query) : Holds q.dialect.quotes q.whereText q.testParts := by
  unfold whereText
  split
  · rename_i h
    simpa [testParts, h, Condition.tests] using (trails_of_isPlain q.dialect.quotes _ rfl).holds
  · exact q.holds_condition _ (by decide) (by decide)

theorem trails_joins (d : Dialect) {joins : List Join} (h : JoinsSpaced joins) :
    Trails d.quotes (Text.joined "" (joins.map d.joinText)) := by
  refine (follows_joins d h).trails fun hmem => ?_
  obtain ⟨j, -, hj⟩ := List.mem_flatMap.mp hmem
  exact j.avoids_words .mark hj List.mem_cons_self

theorem holds_fromText {q : Query} (h : JoinsSpaced q.joins) :
    Holds q.dialect.quotes q.fromText q.testParts := by
  have htable := (unmarked_quote q.dialect q.base.table).behind " FROM "
    (by decide) (by decide)
  have halias : Trails q.dialect.quotes
      (q.baseSource.qualifier.elim "" fun name => " " ++ q.dialect.quote name) := by
    cases q.baseSource.qualifier with
    | none => exact trails_of_isPlain _ _ rfl
    | some name => exact (unmarked_quote q.dialect name).behind _ (by decide) (by decide)
  exact q.holds_whereText.after ((htable.append halias).append (trails_joins q.dialect h))

/-! ### Selections and counts -/

theorem unmarked_orderText {q : Query} {terms : String} (h : q.orderText? = some terms) :
    Unmarked q.dialect.quotes terms := by
  unfold orderText? at h
  split at h
  · contradiction
  · rw [← Option.some.inj h]
    exact (omits_orderTerms q.dialect q.order).unmarked List.mem_cons_self

theorem holds_selectText {q : Query} {sql : String} (hjoins : JoinsSpaced q.joins)
    (hparts : ∀ expression, .computed expression ∉ q.projection) (h : q.selectText = .ok sql) :
    Holds q.dialect.quotes sql q.testParts := by
  obtain ⟨projection, hprojection, h⟩ := bind_eq_ok.mp h
  obtain ⟨page, hpage, rfl⟩ := Dialect.paginate_trails (fun _ => unmarked_orderText) h
  have hprojection := (omits_projectionText hparts hprojection).unmarked List.mem_cons_self
  have hrow := hprojection.behind "SELECT " (by decide) (by decide)
  have horder : Trails q.dialect.quotes (q.orderText?.elim "" (" ORDER BY " ++ ·)) := by
    cases hterms : q.orderText? with
    | none => exact trails_of_isPlain _ _ rfl
    | some terms => exact (unmarked_orderText hterms).behind _ (by decide) (by decide)
  exact (((holds_fromText hjoins).after hrow).before horder).before hpage

theorem holds_countText {q : Query} {sql : String} (hjoins : JoinsSpaced q.joins)
    (hparts : ∀ expression, .computed expression ∉ q.projection) (h : q.countText = .ok sql) :
    Holds q.dialect.quotes sql q.testParts := by
  have hcolumn : Trails q.dialect.quotes q.countColumn :=
    (unmarked_quote q.dialect "count").behind _ (by decide) (by decide)
  unfold countText at h
  split at h
  · rw [← Except.ok.inj h]
    exact (holds_fromText hjoins).after hcolumn
  · obtain ⟨inner, hinner, rfl⟩ := map_eq_ok.mp h
    have hopen := hcolumn.append (trails_of_isPlain _ " FROM (" (by decide))
    have hname := (unmarked_quote q.dialect "sub").behind ") " (by decide) (by decide)
    simpa [String.append_assoc] using
      ((holds_selectText hjoins hparts hinner).after hopen).before hname

/-! ## Writing statements -/

/-- An assignment as a part of a statement. -/
def assignmentPart (q : Query) (assignment : String × Value) : Part :=
  ⟨q.assignmentText assignment.1, [assignment.2]⟩

def assignmentWritten (q : Query) (property : String) : Written :=
  [.name (q.base.columnName property), .plain " = ", .mark]

theorem chars_assignmentWritten (q : Query) (property : String) :
    Written.chars q.dialect.quotes (q.assignmentWritten property) =
      (q.assignmentText property).toList := by
  simp [assignmentWritten, assignmentText, Fragment.chars, questionMark]

theorem clean_assignmentWritten (q : Query) (property : String) :
    (q.assignmentWritten property).Clean := by
  simp [assignmentWritten, Fragment.isName]
  decide

theorem carries_assignment (q : Query) (assignment : String × Value) :
    Carries q.dialect.quotes (q.assignmentWritten assignment.1) [q.assignmentPart assignment] :=
  .single (q.chars_assignmentWritten _) (q.clean_assignmentWritten _) rfl

theorem carries_joined {q : Quotes} {α : Type} (separator : String) {write : α → Written}
    {part : α → Part} (h : ∀ x, Carries q (write x) [part x]) (items : List α) :
    Carries q (Written.joined separator (items.map write)) (items.map part) := by
  induction items with
  | nil => exact .frame List.not_mem_nil
  | cons x items ih =>
      cases items with
      | nil => simpa [Written.joined] using h x
      | cons y items =>
          simp only [List.map_cons, Written.joined_cons_cons]
          exact (h x).append (ih.prepend (v := [.plain separator]) (by simp))

theorem holds_assignments (q : Query) (given : List (String × Value)) (lead : String)
    (hne : lead ≠ "") (hlead : isPlain lead.toList = true) :
    Holds q.dialect.quotes
      (lead ++ Text.joined ", " (given.map fun (property, _) => q.assignmentText property))
      (given.map q.assignmentPart) := by
  have hclean : ∀ w ∈ given.map fun a => q.assignmentWritten a.1, Written.Clean w := by
    intro w hw
    obtain ⟨a, -, rfl⟩ := List.mem_map.mp hw
    exact q.clean_assignmentWritten a.1
  refine holds_behind hne hlead (Written.clean_joined (by decide) (by decide) hclean)
    (Written.chars_joined _ ", " _ ?_) (carries_joined ", " q.carries_assignment given)
  simp [List.map_map, Function.comp_def, chars_assignmentWritten]

theorem params_assignments (q : Query) (given : List (String × Value)) :
    given.map (·.2) = (given.map q.assignmentPart).flatMap (·.params) := by
  induction given with
  | nil => rfl
  | cons a given ih => simpa [assignmentPart] using ih

/-! ## All statements -/

/-- The kinds of statements that a query is compiled to. -/
inductive Form where
  | selection
  | count
  | update (assignments : Option (List (String × Value)))
  | deletion
  deriving DecidableEq, Inhabited

def compile (q : Query) : Form → Except Failure Compiled
  | .selection => q.selectStatement
  | .count => q.countText.map fun sql => { sql, params := q.params }
  | .update assignments => q.updateStatement assignments
  | .deletion => q.deleteStatement

/-- What binds values in a statement: its assignments, then the tests of its condition. -/
def parts (q : Query) : Form → List Part
  | .update (some given) => given.map q.assignmentPart ++ q.testParts
  | _ => q.testParts

theorem holds_update {q : Query} {assignments : Option (List (String × Value))} {st : Compiled}
    (h : q.updateStatement assignments = .ok st) :
    Holds q.dialect.quotes st.sql (q.parts (.update assignments)) ∧
      st.params = (q.parts (.update assignments)).flatMap (·.params) := by
  cases assignments with
  | none => contradiction
  | some given =>
      obtain ⟨-, -, h⟩ := bind_eq_ok.mp h
      simp only at h
      split at h
      · contradiction
      · rw [← Except.ok.inj h]
        have htable := (unmarked_quote q.dialect q.base.table).behind "UPDATE "
          (by decide) (by decide)
        have hset := (q.holds_assignments given " SET " (by decide) (by decide)).append
          (q.holds_condition " WHERE " (by decide) (by decide))
        refine ⟨by simpa [parts, String.append_assoc] using hset.after htable, ?_⟩
        rw [q.params_assignments given, q.params_eq, parts, List.flatMap_append]

theorem holds_delete {q : Query} {st : Compiled} (h : q.deleteStatement = .ok st) :
    Holds q.dialect.quotes st.sql q.testParts ∧ st.params = q.params := by
  obtain ⟨-, -, h⟩ := bind_eq_ok.mp h
  rw [← Except.ok.inj h]
  have htable := (unmarked_quote q.dialect q.base.table).behind "DELETE FROM "
    (by decide) (by decide)
  have hwhere := q.holds_condition " WHERE " (by decide) (by decide)
  exact ⟨by simpa [String.append_assoc] using hwhere.after htable, rfl⟩

theorem aligned_of_compile {q : Query} (hjoins : JoinsSpaced q.joins)
    (hparts : ∀ expression, .computed expression ∉ q.projection) {form : Form} {st : Compiled}
    (h : q.compile form = .ok st) : Aligned st.sql st.params (q.parts form) := by
  have hq := q.dialect.quotes_mem_all
  cases form with
  | selection =>
      obtain ⟨sql, hsql, rfl⟩ := map_eq_ok.mp h
      rw [q.params_eq]
      exact (holds_selectText hjoins hparts hsql).aligned hq
  | count =>
      obtain ⟨sql, hsql, rfl⟩ := map_eq_ok.mp h
      rw [q.params_eq]
      exact (holds_countText hjoins hparts hsql).aligned hq
  | update assignments =>
      obtain ⟨hsql, hparams⟩ := holds_update h
      rw [hparams]
      exact hsql.aligned hq
  | deletion =>
      obtain ⟨hsql, hparams⟩ := holds_delete h
      rw [hparams, q.params_eq]
      exact hsql.aligned hq

/-- Whatever the names hold, the markers of a statement stand where its parameters are supplied, and
a driver that reads format texts finds a directive for each of them. -/
theorem markers_of_compile {q : Query} (hq : q.Reached succeeding)
    (hparts : ∀ expression, .computed expression ∉ q.projection) {form : Form} {st : Compiled}
    (h : q.compile form = .ok st) :
    (tokenize st.sql).countP (·.kind = .marker) = st.params.length ∧
      Aligned st.sql st.params (q.parts form) ∧
      (q.dialect = .mySql ∨ q.dialect = .postgres →
        readFormat (q.dialect.standardize st.sql).toList =
            some ((tokenize st.sql).flatMap Token.formatItems) ∧
          ((tokenize st.sql).flatMap Token.formatItems).count .directive = st.params.length) := by
  have haligned := aligned_of_compile hq.joinsSpaced hparts h
  refine ⟨haligned.count_eq, haligned, fun hd => ⟨?_, ?_⟩⟩
  · have hformat : q.dialect.placeholder = "%s" := by
      rcases hd with hd | hd <;> rw [hd] <;> rfl
    rw [Dialect.standardize_of_format hformat, readFormat_restyle]
    rfl
  · rw [count_directive_formatItems, haligned.count_eq]

/-- A class whose table and column have names full of quotes, markers and comments. -/
def oddClass : EntityClass :=
  { name := "Odd", marker := some "odd`?--"
    lineage := [{ name := "Odd", defaults := [], construction := none
                  fields := [("size", .annotated (.type .int) [.column { name := "%s/*?" }])] }] }

def oddMap : TableMap :=
  { type := oddClass, table := "odd`?--", columns := [("size", "%s/*?")]
    fields := [("size", .annotated (.type .int) [.column { name := "%s/*?" }])]
    details := [("size", { property := "size", name := "%s/*?", length := 255 })] }

/-- What is not null or among one and two. -/
def oddQuery : Query :=
  { start .mySql oddMap with
    condition := [.test (.isNotNull ⟨none, "%s/*?"⟩), .or,
      .test (.among ⟨none, "%s/*?"⟩ [.int 1, .int 2])]
    tests := 2 }

theorem reached_oddQuery : oddQuery.Reached succeeding :=
  have hstart : (start .mySql oddMap).Reached succeeding :=
    .start (show (Session.query oddClass).perform { connection := { dialect := .mySql } } = _ from
      rfl)
  .call (s := default) hstart (show (FluentCall.filter
    [.test (.compare "size" .notEqual .null none), .or,
      .test (.among "size" (.list [.int 1, .int 2]) none)]).action.perform _ = _ from rfl) rfl

theorem markers_of_odd_update :
    ∃ st, oddQuery.compile (.update (some [("size", .int 7)])) = .ok st ∧
      st.sql = "UPDATE `odd``?--` SET `%s/*?` = ? WHERE `%s/*?` IS NOT NULL OR `%s/*?` IN (?, ?)" ∧
      (tokenize st.sql).countP (·.kind = .marker) = 3 ∧
      ((tokenize st.sql).flatMap Token.formatItems).count .directive = 3 := by
  have hcompile : oddQuery.compile (.update (some [("size", .int 7)])) = .ok _ := rfl
  obtain ⟨hcount, -, hformat⟩ := markers_of_compile reached_oddQuery (by simp [oddQuery, start])
    hcompile
  exact ⟨_, hcompile, by decide +kernel, hcount, (hformat (.inl rfl)).2⟩

end Query

end RelationalMapper
