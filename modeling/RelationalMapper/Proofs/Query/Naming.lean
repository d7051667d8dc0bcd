import Mathlib.Data.List.Induction
import RelationalMapper.Proofs.Sql.Written
import RelationalMapper.Query.Compile

/-! # Names in a projection

A name that is given afterwards is for the last part that can have one. A column or an aggregate keeps the
last of its names. A computed part keeps all of them in its text, one after the other, so that a second
name does not take the place of the first. -/

namespace RelationalMapper

/-! ## Texts among others -/

theorem Text.joined_cons_of_ne_nil (separator first : String) {rest : List String} (h : rest ≠ []) :
    Text.joined separator (first :: rest) = first ++ separator ++ Text.joined separator rest := by
  obtain ⟨second, rest, rfl⟩ := List.exists_cons_of_ne_nil h
  exact Text.joined_cons_cons separator first second rest

/-- What stands before and after a text that is joined with others does not depend on it. -/
theorem Text.exists_joined_eq (separator : String) (before after : List String) :
    ∃ left right, ∀ text, Text.joined separator (before ++ text :: after) = left ++ text ++ right := by
  induction before with
  | nil =>
      cases after with
      | nil => exact ⟨"", "", fun text => by simp [Text.joined]⟩
      | cons next rest =>
          refine ⟨"", separator ++ Text.joined separator (next :: rest), fun text => ?_⟩
          simp [Text.joined_cons_cons, String.append_assoc]
  | cons first before ih =>
      obtain ⟨left, right, h⟩ := ih
      refine ⟨first ++ separator ++ left, right, fun text => ?_⟩
      rw [List.cons_append, Text.joined_cons_of_ne_nil _ _ (by simp), h]
      simp only [String.append_assoc]

namespace SelectionPart

/-- Every part but a star can have a name. -/
def isNameable : SelectionPart → Bool
  | star _ => false
  | _ => true

theorem exists_renamed?_eq {part : SelectionPart} (h : part.isNameable = true) (a : String) :
    ∃ named, part.renamed? a = some named := by
  cases part with
  | column | aggregate | computed => exact ⟨_, rfl⟩
  | star => contradiction

theorem renamed?_computed (expression a : String) :
    (computed expression).renamed? a = some (computed (named expression a)) := rfl

/-- A second name does not add to the first, unless the part is computed. -/
theorem renamed?_of_renamed? {part named : SelectionPart} {a b : String}
    (hcomputed : ∀ expression, part ≠ computed expression) (h : part.renamed? a = some named) :
    named.renamed? b = part.renamed? b := by
  cases part with
  | column | aggregate =>
      obtain rfl := Option.some.inj h
      rfl
  | star => contradiction
  | computed expression => exact absurd rfl (hcomputed expression)

end SelectionPart

namespace Projection

variable {p before after : Projection} {part named : SelectionPart} {a b : String}

/-! ## Giving a name -/

/-- A star is passed over. -/
theorem step_rename_star (p : Projection) (entity : Option EntityClass) (a : String) :
    step (p ++ [.star entity]) (.rename a) = (step p (.rename a)).map (· ++ [.star entity]) := by
  unfold step
  rw [List.reverse_append]
  simp only [List.reverse_singleton, List.singleton_append, SelectionPart.renameFirst?,
    SelectionPart.renamed?]
  cases SelectionPart.renameFirst? a p.reverse with
  | none => rfl
  | some renamed => simp [Except.map]

theorem step_rename_last (h : part.renamed? a = some named) :
    step (p ++ [part]) (.rename a) = .ok (p ++ [named]) := by
  simp [step, SelectionPart.renameFirst?, h]

/-- The part before the last stars is named. -/
theorem step_rename_of_stars (hpart : part.renamed? a = some named)
    (hstars : ∀ s ∈ after, s.isNameable = false) :
    step (before ++ part :: after) (.rename a) = .ok (before ++ named :: after) := by
  induction after using List.reverseRecOn with
  | nil => exact step_rename_last hpart
  | append_singleton after s ih =>
      have hs : s.isNameable = false := hstars s (by simp)
      cases s with
      | star entity =>
          have hsplit (x : SelectionPart) :
              before ++ x :: (after ++ [.star entity]) = before ++ x :: after ++ [.star entity] := by simp
          rw [hsplit, step_rename_star, ih fun s hs => hstars s (by simp [hs]), hsplit]
          rfl
      | _ => contradiction

/-- Where there are only stars there is nothing to name. -/
theorem step_rename_of_only_stars (hstars : ∀ s ∈ p, s.isNameable = false) :
    step p (.rename a) = .error (.misuse .aliasOfNothing) := by
  induction p using List.reverseRecOn with
  | nil => rfl
  | append_singleton p s ih =>
      have hs : s.isNameable = false := hstars s (by simp)
      cases s with
      | star entity =>
          rw [step_rename_star, ih fun s hs => hstars s (by simp [hs])]
          rfl
      | _ => contradiction

/-- The part that the next name is for. -/
def lastNameable? (p : Projection) : Option SelectionPart := p.reverse.find? (·.isNameable)

theorem lastNameable?_eq_some_iff :
    p.lastNameable? = some part ↔
      part.isNameable = true ∧
        ∃ before after, p = before ++ part :: after ∧ ∀ s ∈ after, s.isNameable = false := by
  rw [lastNameable?, List.find?_eq_some_iff_append]
  refine and_congr_right fun _ => ?_
  constructor
  · rintro ⟨xs, ys, hreverse, hstars⟩
    refine ⟨ys.reverse, xs.reverse, ?_, fun s hs => by simpa using hstars s (by simpa using hs)⟩
    rw [← List.reverse_reverse p, hreverse]
    simp
  · rintro ⟨before, after, rfl, hstars⟩
    exact ⟨after.reverse, before.reverse, by simp, fun s hs => by simpa using hstars s (by simpa using hs)⟩

theorem lastNameable?_eq_none_iff : p.lastNameable? = none ↔ ∀ s ∈ p, s.isNameable = false := by
  simp [lastNameable?]

/-- A name is accepted if any part can have one. -/
theorem exists_step_rename_iff :
    (∃ p', step p (.rename a) = .ok p') ↔ ∃ part ∈ p, part.isNameable = true := by
  cases hlast : p.lastNameable? with
  | none =>
      have hstars := lastNameable?_eq_none_iff.mp hlast
      rw [step_rename_of_only_stars hstars]
      refine iff_of_false (by simp) ?_
      rintro ⟨part, hpart, hnameable⟩
      exact Bool.false_ne_true ((hstars part hpart).symm.trans hnameable)
  | some part =>
      obtain ⟨hnameable, before, after, rfl, hstars⟩ := lastNameable?_eq_some_iff.mp hlast
      obtain ⟨named, hnamed⟩ := SelectionPart.exists_renamed?_eq hnameable a
      exact iff_of_true ⟨_, step_rename_of_stars hnamed hstars⟩ ⟨part, by simp, hnameable⟩

/-- A step that is refused changes nothing. -/
def attempt (p : Projection) (s : Step) : Projection :=
  match p.step s with
  | .ok p' => p'
  | .error _ => p

theorem attempt_of_step {s : Step} {p' : Projection} (h : p.step s = .ok p') : p.attempt s = p' := by
  rw [attempt, h]

theorem attempt_rename_star (p : Projection) (entity : Option EntityClass) (a : String) :
    attempt (p ++ [.star entity]) (.rename a) = attempt p (.rename a) ++ [.star entity] := by
  rw [attempt, attempt, step_rename_star]
  cases step p (.rename a) <;> rfl

theorem foldl_attempt_of_foldlM {steps : List Step} {p p' : Projection}
    (h : steps.foldlM step p = .ok p') : steps.foldl attempt p = p' := by
  induction steps generalizing p with
  | nil => exact Except.ok.inj h
  | cons s steps ih =>
      rw [List.foldlM_cons] at h
      cases hs : p.step s with
      | error e =>
          rw [hs] at h
          contradiction
      | ok next =>
          rw [hs] at h
          rw [List.foldl_cons, attempt_of_step hs]
          exact ih h

/-! ## What is said about a projection -/

/-- What a caller says: a part, with its name if the name is given with the part, or a name for what was
said before. -/
inductive Phrase where
  | column (property : String) (entity : Option EntityClass) (aliasName : Option String)
  | star (entity : Option EntityClass)
  | computed (expression : String) (aliasName : Option String)
  | aggregate (function : AggregateFunction) (distinct : Bool) (property : Option String)
      (entity : Option EntityClass)
  | rename (aliasName : String)

def Phrase.step : Phrase → Step
  | column property entity aliasName => .part (.column property entity aliasName)
  | star entity => .part (.star entity)
  | computed expression aliasName => .part (.computedAs expression aliasName)
  | aggregate function distinct property entity =>
    .part (.aggregate function distinct property entity none)
  | rename aliasName => .rename aliasName

/-- The projection after the phrases; those that were refused left it as it was. -/
def built (phrases : List Phrase) : Projection := (phrases.map Phrase.step).foldl attempt []

/-- Where no phrase is refused, that is the projection that a query is given. -/
theorem built_of_ofSteps {phrases : List Phrase} (h : ofSteps (phrases.map Phrase.step) = .ok p) :
    built phrases = p :=
  foldl_attempt_of_foldlM h

/-! ## The history of the names -/

/-- A part with the names that it was given, oldest first. -/
structure Draft where
  subject : SelectionPart
  names : List String

namespace Draft

variable {d : Draft}

/-- The part under the last of its names; a computed one has all of them in its text. -/
def toPart (d : Draft) : SelectionPart :=
  match d.subject with
  | .column property entity _ => .column property entity d.names.getLast?
  | .star entity => .star entity
  | .aggregate function distinct property entity _ =>
    .aggregate function distinct property entity d.names.getLast?
  | .computed expression => .computed (d.names.foldl SelectionPart.named expression)

def unnamed (d : Draft) : SelectionPart := { d with names := [] : Draft }.toPart

/-- More names, if the part can have one. -/
def given (d : Draft) (names : List String) : Draft :=
  if d.subject.isNameable then { d with names := d.names ++ names } else d

theorem given_of_nameable (h : d.subject.isNameable = true) (names : List String) :
    d.given names = { d with names := d.names ++ names } := if_pos h

theorem given_cons (d : Draft) (a : String) (names : List String) :
    d.given (a :: names) = (d.given [a]).given names := by
  cases h : d.subject.isNameable <;> simp [given, h]

theorem isNameable_given (d : Draft) (names : List String) :
    (d.given names).subject.isNameable = d.subject.isNameable := by
  unfold given
  split <;> rfl

theorem renamed?_toPart (h : d.subject.isNameable = true) (a : String) :
    d.toPart.renamed? a = some (d.given [a]).toPart := by
  rw [given_of_nameable h]
  obtain ⟨subject, names⟩ := d
  cases subject with
  | column | aggregate | computed => simp [toPart, SelectionPart.renamed?]
  | star => contradiction

end Draft

/-- The part that a phrase adds, with the name it comes with. -/
def Phrase.draft? : Phrase → Option Draft
  | column property entity aliasName => some ⟨.column property entity none, aliasName.toList⟩
  | star entity => some ⟨.star entity, []⟩
  | computed expression aliasName => some ⟨.computed expression, aliasName.toList⟩
  | aggregate function distinct property entity =>
    some ⟨.aggregate function distinct property entity none, []⟩
  | rename _ => none

/-- The names that are given before the next part that can have one. -/
def namesBefore : List Phrase → List String
  | [] => []
  | .rename a :: rest => a :: namesBefore rest
  | .star _ :: rest => namesBefore rest
  | _ :: _ => []

/-- Each part that was added, with its own name and those that were given until the next part that can
have one. -/
def drafts : List Phrase → List Draft
  | [] => []
  | phrase :: rest =>
    match phrase.draft? with
    | some d => d.given (namesBefore rest) :: drafts rest
    | none => drafts rest

theorem step_of_draft? {phrase : Phrase} {d : Draft} (h : phrase.draft? = some d) :
    phrase.step = .part d.toPart := by
  cases phrase with
  | column property entity aliasName | computed expression aliasName =>
      obtain rfl := Option.some.inj h
      cases aliasName <;> rfl
  | star | aggregate =>
      obtain rfl := Option.some.inj h
      rfl
  | rename => contradiction

/-- Gives the names one after the other. -/
def nameAll (p : Projection) (names : List String) : Projection :=
  names.foldl (fun p a => p.attempt (.rename a)) p

theorem nameAll_star (p : Projection) (entity : Option EntityClass) (names : List String) :
    nameAll (p ++ [.star entity]) names = nameAll p names ++ [.star entity] := by
  induction names generalizing p with
  | nil => rfl
  | cons a names ih =>
      rw [nameAll, List.foldl_cons, attempt_rename_star]
      exact ih (attempt p (.rename a))

theorem nameAll_draft {d : Draft} (h : d.subject.isNameable = true) (p : Projection)
    (names : List String) : nameAll (p ++ [d.toPart]) names = p ++ [(d.given names).toPart] := by
  induction names generalizing d with
  | nil =>
      rw [d.given_of_nameable h, List.append_nil]
      rfl
  | cons a names ih =>
      rw [d.given_cons a names, nameAll, List.foldl_cons,
        attempt_of_step (step_rename_last (d.renamed?_toPart h a))]
      exact ih ((d.isNameable_given [a]).trans h)

theorem nameAll_nil (names : List String) : nameAll [] names = [] := by
  induction names with
  | nil => rfl
  | cons a names ih => exact ih

/-- What was there takes the names that come first, and then each part takes its own. -/
theorem foldl_attempt_eq (phrases : List Phrase) (p : Projection) :
    (phrases.map Phrase.step).foldl attempt p =
      nameAll p (namesBefore phrases) ++ (drafts phrases).map Draft.toPart := by
  induction phrases generalizing p with
  | nil => simp [namesBefore, drafts, nameAll]
  | cons phrase rest ih =>
      rw [List.map_cons, List.foldl_cons, ih]
      -- A part that can have a name takes all that come before the next one.
      have hnameable {d : Draft} (hd : phrase.draft? = some d) (h : d.subject.isNameable = true)
          (hbefore : namesBefore (phrase :: rest) = []) :
          nameAll (p.attempt phrase.step) (namesBefore rest) ++ (drafts rest).map Draft.toPart =
            nameAll p (namesBefore (phrase :: rest)) ++ (drafts (phrase :: rest)).map Draft.toPart := by
        rw [step_of_draft? hd, attempt_of_step rfl, nameAll_draft h, hbefore, drafts, hd]
        simp [nameAll]
      cases phrase with
      | column | computed | aggregate => exact hnameable rfl rfl rfl
      | star entity =>
          rw [Phrase.step, attempt_of_step rfl, nameAll_star]
          simp [namesBefore, drafts, Phrase.draft?, Draft.given, SelectionPart.isNameable, Draft.toPart]
      | rename a => rfl

theorem built_eq (phrases : List Phrase) : built phrases = (drafts phrases).map Draft.toPart := by
  rw [built, foldl_attempt_eq, nameAll_nil, List.nil_append]

end Projection

/-! ## The names in the statement -/

namespace Query

open Projection

variable {q : Query} {p : Projection}

/-- The query with more parts in its projection. -/
def selecting (q : Query) (p : Projection) : Query := { q with projection := q.projection ++ p }

/-- The names that stand with the part in the statement: of a column or an aggregate the last one, unless
it is empty, and of a computed part all of them. -/
def shownNames (q : Query) (d : Draft) : List String :=
  match d.subject with
  | .computed _ => d.names
  | .star _ => []
  | _ => (d.names.getLast?.filter (· ≠ "")).toList.map q.dialect.quote

theorem withName_eq (q : Query) (text : String) (aliasName : Option String) :
    q.withName text aliasName =
      ((aliasName.filter (· ≠ "")).toList.map q.dialect.quote).foldl SelectionPart.named text := by
  rw [withName]
  cases aliasName.filter (· ≠ "") <;> rfl

theorem partText_toPart (q : Query) (d : Draft) :
    q.partText d.toPart =
      (q.partText d.unnamed).map fun text => (q.shownNames d).foldl SelectionPart.named text := by
  obtain ⟨subject, names⟩ := d
  cases subject with
  | column property entity _ =>
      simp only [Draft.toPart, Draft.unnamed, partText, shownNames, withName_eq]
      cases q.column entity property <;> rfl
  | star entity =>
      simp only [Draft.toPart, Draft.unnamed, partText, shownNames]
      cases q.source entity <;> rfl
  | aggregate function distinct property entity _ =>
      simp only [Draft.toPart, Draft.unnamed, partText, shownNames, withName_eq]
      cases property with
      | none => rfl
      | some property => cases h : q.column entity property <;> simp [h] <;> rfl
  | computed expression => rfl

/-- One name at most, unless the part is computed and was given several. -/
theorem length_shownNames_le_one_iff (q : Query) (d : Draft) :
    (q.shownNames d).length ≤ 1 ↔
      ∀ expression, d.subject = .computed expression → d.names.length ≤ 1 := by
  obtain ⟨subject, names⟩ := d
  cases subject with
  | column | aggregate =>
      refine iff_of_true ?_ nofun
      simp only [shownNames, List.length_map]
      cases names.getLast?.filter (· ≠ "") <;> simp
  | star => exact iff_of_true (Nat.zero_le 1) nofun
  | computed expression => simp [shownNames]

/-! ### The last name -/

theorem partText_selecting (q : Query) (p : Projection) : (q.selecting p).partText = q.partText := by
  funext part
  cases part <;> rfl

/-- A computed part stands in the statement as it is, if there is a statement. -/
theorem exists_projectionText_selecting (q : Query) (before after : Projection) :
    (∃ e, ∀ expression,
      (q.selecting (before ++ .computed expression :: after)).projectionText = .error e) ∨
    ∃ left right, ∀ expression,
      (q.selecting (before ++ .computed expression :: after)).projectionText =
        .ok (left ++ expression ++ right) := by
  have hparts (expression : String) :
      (q.selecting (before ++ .computed expression :: after)).projectionText = do
        let front ← (q.projection ++ before).mapM q.partText
        let back ← after.mapM q.partText
        return Text.joined ", " (front ++ expression :: back) := by
    rw [projectionText, partText_selecting, if_neg (by simp [selecting]), selecting,
      ← List.append_assoc, List.mapM_append, List.mapM_cons]
    cases (q.projection ++ before).mapM q.partText with
    | error e => rfl
    | ok front => cases after.mapM q.partText <;> rfl
  simp only [hparts]
  cases (q.projection ++ before).mapM q.partText with
  | error e => exact .inl ⟨e, fun _ => rfl⟩
  | ok front =>
      cases after.mapM q.partText with
      | error e => exact .inl ⟨e, fun _ => rfl⟩
      | ok back =>
          obtain ⟨left, right, h⟩ := Text.exists_joined_eq ", " front back
          exact .inr ⟨left, right, fun expression => congrArg Except.ok (h expression)⟩

/-- A second name shows beside the first. -/
theorem named_named_ne (expression a b left right : String) :
    left ++ SelectionPart.named (SelectionPart.named expression a) b ++ right ≠
      left ++ SelectionPart.named expression b ++ right := by
  intro h
  have hlength := congrArg String.length h
  simp only [SelectionPart.named, String.length_append] at hlength
  have hword : " AS ".length = 4 := by decide
  omega

/-- The last name is the only one that counts unless the part that it is for is computed. -/
theorem projectionText_rename_rename_iff (q : Query) (p : Projection) (a b : String) :
    (q.selecting ((p.attempt (.rename a)).attempt (.rename b))).projectionText =
        (q.selecting (p.attempt (.rename b))).projectionText ↔
      (∀ expression, p.lastNameable? ≠ some (.computed expression)) ∨
        ∃ e, (q.selecting p).projectionText = .error e := by
  cases hlast : p.lastNameable? with
  | none =>
      have hsame (name : String) : p.attempt (.rename name) = p := by
        rw [attempt, step_rename_of_only_stars (lastNameable?_eq_none_iff.mp hlast)]
      rw [hsame, hsame]
      exact iff_of_true rfl (.inl nofun)
  | some part =>
      obtain ⟨hnameable, before, after, rfl, hstars⟩ := lastNameable?_eq_some_iff.mp hlast
      have hattempt {part named : SelectionPart} {name : String} (h : part.renamed? name = some named) :
          attempt (before ++ part :: after) (.rename name) = before ++ named :: after :=
        attempt_of_step (step_rename_of_stars h hstars)
      by_cases hcomputed : ∃ expression, part = .computed expression
      · obtain ⟨expression, rfl⟩ := hcomputed
        have hcomputed (expression name : String) :=
          hattempt (SelectionPart.renamed?_computed expression name)
        rw [hcomputed, hcomputed, hcomputed]
        rcases exists_projectionText_selecting q before after with ⟨e, h⟩ | ⟨left, right, h⟩
        · rw [h, h]
          exact iff_of_true rfl (.inr ⟨e, h expression⟩)
        · refine iff_of_false ?_ ?_
          · rw [h, h]
            exact fun hsame => named_named_ne expression a b left right (Except.ok.inj hsame)
          · rintro (hother | ⟨e, herror⟩)
            · exact hother expression rfl
            · rw [h] at herror
              contradiction
      · have hcomputed : ∀ expression, part ≠ .computed expression := fun expression h =>
          hcomputed ⟨expression, h⟩
        obtain ⟨first, hfirst⟩ := SelectionPart.exists_renamed?_eq hnameable a
        obtain ⟨second, hsecond⟩ := SelectionPart.exists_renamed?_eq hnameable b
        rw [hattempt hfirst, hattempt hsecond,
          hattempt ((SelectionPart.renamed?_of_renamed? hcomputed hfirst).trans hsecond)]
        exact iff_of_true rfl (.inl fun expression h => hcomputed expression (Option.some.inj h))

/-- What names do in a projection that is built by phrases, in whatever order they are made. -/
structure Naming (q : Query) (phrases : List Phrase) : Prop where
  /-- The query is given what is built, if none of the phrases is refused. -/
  accepted : ∀ p, ofSteps (phrases.map Phrase.step) = .ok p → built phrases = p
  /-- The names of each part are its own and those that are given before the next part. -/
  parts : built phrases = (drafts phrases).map Draft.toPart
  shown : ∀ d ∈ drafts phrases, q.partText d.toPart =
    (q.partText d.unnamed).map fun text => (q.shownNames d).foldl SelectionPart.named text
  once_iff : ∀ d ∈ drafts phrases, (q.shownNames d).length ≤ 1 ↔
    ∀ expression, d.subject = .computed expression → d.names.length ≤ 1
  accepted_iff : ∀ a, (∃ p, (built phrases).step (.rename a) = .ok p) ↔
    ∃ part ∈ built phrases, part.isNameable = true
  last_iff : ∀ a b,
    (q.selecting (((built phrases).attempt (.rename a)).attempt (.rename b))).projectionText =
        (q.selecting ((built phrases).attempt (.rename b))).projectionText ↔
      (∀ expression, (built phrases).lastNameable? ≠ some (.computed expression)) ∨
        ∃ e, (q.selecting (built phrases)).projectionText = .error e

/-- Every query and every sequence of phrases. -/
theorem naming (q : Query) (phrases : List Phrase) : q.Naming phrases where
  accepted _ h := built_of_ofSteps h
  parts := built_eq phrases
  shown d _ := q.partText_toPart d
  once_iff d _ := q.length_shownNames_le_one_iff d
  accepted_iff _ := exists_step_rename_iff
  last_iff a b := q.projectionText_rename_rename_iff (built phrases) a b

/-- A query whose projection the phrases build; no column of its table is read. -/
def ofConstants (phrases : List Phrase) : Query := (start .sqlite default).selecting (built phrases)

/-- A sum that is named twice has both names in the statement. -/
theorem second_name_added :
    (ofConstants [.computed "1 + 1" none, .rename "a", .rename "b"]).projectionText =
        .ok "1 + 1 AS a AS b" ∧
      (ofConstants [.computed "1 + 1" none, .rename "b"]).projectionText = .ok "1 + 1 AS b" :=
  ⟨rfl, rfl⟩

end Query

end RelationalMapper
