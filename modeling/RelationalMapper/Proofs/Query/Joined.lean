import RelationalMapper.Proofs.Query.Coverage
import RelationalMapper.Proofs.Query.History

/-! # Which tables may be asked about

A query may be asked about the columns of its base table and of the tables it joins. What else it is
asked about is refused as a misuse, unless a join of that table was refused in its condition: such a
table stays in scope although nothing joins it. -/

namespace RelationalMapper

open RelationalMapper.Action

/-! ## Failures of lists -/

section Lists

variable {α β : Type} {f : α → Except Failure β}

theorem mapM_refused {before after : List α} {x : α} {e : Failure}
    (hbefore : ∀ y ∈ before, ∃ b, f y = .ok b) (hx : f x = .error e) :
    (before ++ x :: after).mapM f = .error e := by
  induction before with
  | nil =>
      rw [List.nil_append, List.mapM_cons, hx]
      rfl
  | cons y before ih =>
      obtain ⟨b, hb⟩ := hbefore y List.mem_cons_self
      rw [List.cons_append, List.mapM_cons, hb, ih fun z hz => hbefore z (List.mem_cons_of_mem y hz)]
      rfl

/-- A list fails by the failure of one of its elements, if one fails. -/
theorem mapM_eq_error {xs : List α} {x : α} {e : Failure} (hmem : x ∈ xs) (hx : f x = .error e) :
    ∃ e', xs.mapM f = .error e' ∧ ∃ y ∈ xs, f y = .error e' := by
  induction xs with
  | nil => contradiction
  | cons y xs ih =>
      rw [List.mapM_cons]
      cases hy : f y with
      | error e' => exact ⟨e', rfl, y, List.mem_cons_self, hy⟩
      | ok b =>
          have hxs : x ∈ xs := by
            rcases List.mem_cons.mp hmem with rfl | hxs
            · rw [hx] at hy
              contradiction
            · exact hxs
          obtain ⟨e', he', z, hz, hfz⟩ := ih hxs
          exact ⟨e', by rw [he']; rfl, z, List.mem_cons_of_mem y hz, hfz⟩

end Lists

namespace Query

/-! ## Tables in scope -/

def InScope (q : Query) (type : EntityClass) : Prop := ∃ s, q.source (some type) = .ok s

theorem source_of_not_inScope {q : Query} {type : EntityClass} (h : ¬ q.InScope type) :
    q.source (some type) = .error (.misuse (.outOfScope type.name)) := by
  have hscope : q.scope.get? type.name = none := by
    by_contra hfound
    obtain ⟨s, hs⟩ := Option.ne_none_iff_exists'.mp hfound
    exact h ⟨s, by rw [source, Scope.source, hs]⟩
  rw [source, Scope.source, hscope]

theorem column_of_not_inScope {q : Query} {type : EntityClass} (h : ¬ q.InScope type)
    (property : String) :
    q.column (some type) property = .error (.misuse (.outOfScope type.name)) := by
  rw [column, source_of_not_inScope h]
  rfl

/-- A source is only refused for a table out of scope. -/
theorem source_eq_error {q : Query} {entity : Option EntityClass} {e : Failure}
    (h : q.source entity = .error e) : ∃ name, e = .misuse (.outOfScope name) := by
  cases entity with
  | none => contradiction
  | some type =>
      refine ⟨type.name, ?_⟩
      by_cases hscope : q.InScope type
      · obtain ⟨s, hs⟩ := hscope
        rw [hs] at h
        contradiction
      · rw [source_of_not_inScope hscope] at h
        exact (Except.error.inj h).symm

end Query

/-! ## What is asked about a table -/

def Query.FilterTest.entity : FilterTest → Option EntityClass
  | compare _ _ _ entity | among _ _ entity => entity

/-- The table that a part names; a count of all rows names none. -/
def SelectionPart.entity : SelectionPart → Option EntityClass
  | column _ entity _ | star entity | aggregate _ _ (some _) entity _ => entity
  | _ => none

namespace Query

/-- Whatever refers to the table is refused: a test of a filter or of the condition of a join, unless
something in front of it is refused already; an order; and a part of the projection when the selection
is compiled. -/
structure Refuses (q : Query) (type : EntityClass) : Prop where
  filters : ∀ (s : Session) before t after, q.executed = false → t.entity = some type →
    (∀ piece ∈ before, ∃ settled, piece.settled q.filterTest = .ok settled) →
    ((FluentCall.filter (before ++ .test t :: after)).action.perform (s, q)).1 =
      .error (.misuse (.outOfScope type.name))
  joins : ∀ (s : Session) kind joinedType aliasName before t after joined,
    opened? (s, q) (.join kind joinedType aliasName (before ++ .test t :: after)) = some joined →
    joined.map.type.name ≠ type.name → t.entity = some type →
    (∀ piece ∈ before, ∃ settled,
      piece.settled ((q.withSource joined).joinTest joined) = .ok settled) →
    ((FluentCall.join kind joinedType aliasName (before ++ .test t :: after)).action.perform
      (s, q)).1 = .error (.misuse (.outOfScope type.name))
  orders : ∀ (s : Session) property ascending, q.executed = false →
    (FluentCall.orderBy property ascending (some type)).action.perform (s, q) =
      (.error (.misuse (.outOfScope type.name)), (s, q))
  selects : ∀ part ∈ q.projection, part.entity = some type →
    ∃ name, q.selectStatement = .error (.misuse (.outOfScope name))

/-- Behind steps that are accepted a filter fails with the first test that is refused. -/
theorem filterSteps_refused {before after : List (Piece FilterTest)} {t : FilterTest} {q : Query}
    {e : Failure}
    (hbefore : ∀ piece ∈ before, ∃ settled, piece.settled q.filterTest = .ok settled)
    (ht : q.filterTest t = .error e) :
    (((before ++ .test t :: after).forM filterStep).perform q).1 = .error e := by
  induction before generalizing q with
  | nil =>
      have hrefused : (Piece.test t).settled q.filterTest = .error e := by
        rw [Piece.settled, ht]
        rfl
      change ((filterStep (.test t) >>= fun _ => after.forM filterStep).perform q).1 = _
      rcases filterStep_cases (.test t) q with
        ⟨settled, n, hsettled, -⟩ | ⟨e', n, c, hsettled, hstep, -⟩
      · rw [hrefused] at hsettled
        contradiction
      · rw [hrefused] at hsettled
        rw [perform_bind_error hstep, Except.error.inj hsettled]
  | cons piece before ih =>
      obtain ⟨settled, haccepted⟩ := hbefore piece List.mem_cons_self
      change ((filterStep piece >>= fun _ =>
        (before ++ .test t :: after).forM filterStep).perform q).1 = _
      rcases filterStep_cases piece q with
        ⟨settled, n, -, hstep⟩ | ⟨e', n, c, hsettled, -⟩
      · rw [perform_bind_ok hstep]
        exact ih (fun y hy => hbefore y (List.mem_cons_of_mem piece hy)) ht
      · rw [haccepted] at hsettled
        contradiction

theorem filterTest_of_not_inScope {q : Query} {type : EntityClass} (h : ¬ q.InScope type)
    {t : FilterTest} (ht : t.entity = some type) :
    q.filterTest t = .error (.misuse (.outOfScope type.name)) := by
  cases t with
  | compare property op value entity =>
      obtain rfl : entity = some type := ht
      rw [filterTest, column_of_not_inScope h]
      rfl
  | among property values entity =>
      obtain rfl : entity = some type := ht
      rw [filterTest, column_of_not_inScope h]
      rfl

/-- A part is only refused for a table out of scope. -/
theorem partText_eq_error {q : Query} {part : SelectionPart} {e : Failure}
    (h : q.partText part = .error e) : ∃ name, e = .misuse (.outOfScope name) := by
  have hcolumn {entity : Option EntityClass} {property : String}
      (h : q.column entity property = .error e) : ∃ name, e = .misuse (.outOfScope name) :=
    source_eq_error (map_eq_error.mp h)
  cases part with
  | column property entity aliasName =>
      rcases bind_eq_error.mp h with h | ⟨c, -, h⟩
      · exact hcolumn h
      · contradiction
  | star entity =>
      rcases bind_eq_error.mp h with h | ⟨s, -, h⟩
      · exact source_eq_error h
      · contradiction
  | aggregate function distinct property entity aliasName =>
      cases property with
      | none => contradiction
      | some p =>
          rcases bind_eq_error.mp h with h | ⟨inner, -, h⟩
          · exact hcolumn (map_eq_error.mp h)
          · contradiction
  | computed expression => contradiction

theorem partText_of_not_inScope {q : Query} {type : EntityClass} (h : ¬ q.InScope type)
    {part : SelectionPart} (hpart : part.entity = some type) :
    q.partText part = .error (.misuse (.outOfScope type.name)) := by
  cases part with
  | column property entity aliasName =>
      obtain rfl : entity = some type := hpart
      rw [partText, column_of_not_inScope h]
      rfl
  | star entity =>
      obtain rfl : entity = some type := hpart
      rw [partText, source_of_not_inScope h]
      rfl
  | aggregate function distinct property entity aliasName =>
      cases property with
      | none => contradiction
      | some p =>
          obtain rfl : entity = some type := hpart
          rw [partText]
          dsimp only
          rw [column_of_not_inScope h]
          rfl
  | computed expression => contradiction

/-- A table that is put in scope leaves the others there. -/
theorem inScope_withSource {q : Query} {s : Source} {type : EntityClass} :
    (q.withSource s).InScope type ↔ q.InScope type ∨ s.map.type.name = type.name := by
  refine ⟨fun ⟨found, hfound⟩ => ?_, fun h => ?_⟩
  · rcases Scope.source_put hfound with ⟨hname, -⟩ | ⟨-, hfound⟩
    · exact .inr hname.symm
    · exact .inl ⟨found, hfound⟩
  · by_cases hname : type.name = s.map.type.name
    · exact ⟨s, by rw [source, withSource, Scope.source, hname, Entries.get?_put_self]⟩
    · obtain ⟨found, hfound⟩ := h.resolve_right fun h => hname h.symm
      refine ⟨found, ?_⟩
      rw [source, withSource, Scope.source, Entries.get?_put_of_ne _ _ hname]
      exact hfound

theorem refuses_of_not_inScope {q : Query} {type : EntityClass} (h : ¬ q.InScope type) :
    q.Refuses type where
  filters s before t after hopen ht hbefore := by
    rw [FluentCall.action, perform_second, filter, perform_bind_ok (checkOpen_of_open hopen)]
    exact filterSteps_refused hbefore (filterTest_of_not_inScope h ht)
  joins s kind joinedType aliasName before t after joined hopened hne ht hbefore := by
    have hout : ¬ (q.withSource joined).InScope type := fun hin =>
      h ((inScope_withSource.mp hin).resolve_right hne)
    have hrefused : (Piece.test t).settled ((q.withSource joined).joinTest joined) =
        .error (.misuse (.outOfScope type.name)) := by
      rw [Piece.settled, joinTest, ht, column_of_not_inScope hout]
      rfl
    have hsettled : (before ++ .test t :: after).mapM
        (Piece.settled ((q.withSource joined).joinTest joined)) =
          .error (.misuse (.outOfScope type.name)) := mapM_refused hbefore hrefused
    have heffect := effect_build (.join kind joinedType aliasName (before ++ .test t :: after)) s q
    generalize ((FluentCall.join kind joinedType aliasName
      (before ++ .test t :: after)).action.perform (s, q)).2.2 = q' at heffect
    cases hresult : ((FluentCall.join kind joinedType aliasName
        (before ++ .test t :: after)).action.perform (s, q)).1 with
    | ok u =>
        rw [hresult] at heffect
        change Effect _ _ (.ok none) _ at heffect
        cases heffect with
        | rested hrests => contradiction
        | joined hopened' hsettled' =>
            obtain rfl := Option.some.inj (hopened.symm.trans hopened')
            rw [hsettled] at hsettled'
            contradiction
    | error e =>
        rw [hresult] at heffect
        change Effect _ _ (.error e) _ at heffect
        cases heffect with
        | rested hrests => contradiction
        | refused hnone _ =>
            rw [hopened] at hnone
            contradiction
        | unjoined hopened' hsettled' =>
            obtain rfl := Option.some.inj (hopened.symm.trans hopened')
            rw [Except.error.inj (hsettled'.symm.trans hsettled)]
  orders s property ascending hopen := by
    rw [FluentCall.action, perform_second, perform_orderBy property ascending _ hopen,
      column_of_not_inScope h]
  selects part hpart hentity := by
    obtain ⟨e, he, part', -, hpart'⟩ := mapM_eq_error hpart (partText_of_not_inScope h hentity)
    obtain ⟨name, rfl⟩ := partText_eq_error hpart'
    have hne : q.projection ≠ [] := List.ne_nil_of_mem hpart
    refine ⟨name, ?_⟩
    rw [selectStatement, selectText, projectionText, if_neg hne, he]
    rfl

/-! ## Tables that a history brings into scope -/

/-- A request brings a table into scope by a join that comes to its condition. -/
theorem Effect.inScope_iff {p : Session × Query} {r : Request}
    {result : Except Failure (Option String)} {q : Query} (h : Effect p r result q)
    (hbase : ∀ type, type.name = p.2.base.type.name → p.2.InScope type) (type : EntityClass) :
    q.InScope type ↔ p.2.InScope type ∨
      ∃ joined, r.opened? p = some joined ∧ joined.map.type.name = type.name := by
  have hopens {joined : Source} (hopened : r.opened? p = some joined) :
      (p.2.withSource joined).InScope type ↔ p.2.InScope type ∨
        ∃ joined, r.opened? p = some joined ∧ joined.map.type.name = type.name := by
    rw [inScope_withSource, hopened]
    simp
  have hkept (hnone : r.opened? p = none) : p.2.InScope type ↔ p.2.InScope type ∨
      ∃ joined, r.opened? p = some joined ∧ joined.map.type.name = type.name := by
    simp [hnone]
  cases h with
  | rested hr => exact hkept (Request.of_rests hr p).1
  | refused hnone _ => exact hkept hnone
  | aliased aliasName =>
      have hput : (p.2.withSource ⟨p.2.base, aliasName⟩).InScope type ↔
          p.2.InScope type ∨ p.2.base.type.name = type.name := inScope_withSource
      refine hput.trans ⟨fun h => .inl ?_, fun h => .inl ?_⟩
      · exact h.elim id fun hname => hbase type hname.symm
      · exact (hkept rfl).mpr h
  | joined hopened _ => exact hopens hopened
  | unjoined hopened _ => exact hopens hopened
  | filtered _ _ => exact hkept rfl
  | selected _ => exact hkept rfl
  | ordered _ => exact hkept rfl

theorem Effect.base_eq {p : Session × Query} {r : Request}
    {result : Except Failure (Option String)} {q : Query} (h : Effect p r result q) :
    q.base = p.2.base := by
  cases h <;> rfl

/-- The joins stay, and a join that is not refused in its condition comes behind them. -/
theorem Effect.joins {p : Session × Query} {r : Request}
    {result : Except Failure (Option String)} {q : Query} (h : Effect p r result q) :
    p.2.joins ⊆ q.joins ∧ ∀ joined, r.opened? p = some joined → (∃ e, result = .error e) ∨
      ∃ j ∈ q.joins, j.table = joined.map.table ∧ some j.aliasName = joined.aliasName := by
  cases h with
  | rested hr =>
      refine ⟨List.Subset.refl _, fun joined hopened => ?_⟩
      rw [(Request.of_rests hr p).1] at hopened
      contradiction
  | joined hopened _ =>
      refine ⟨List.subset_append_left _ _, fun joined hjoined => .inr ?_⟩
      obtain rfl := Option.some.inj (hopened.symm.trans hjoined)
      exact ⟨_, List.mem_append_right _ (List.mem_singleton.mpr rfl), rfl, rfl⟩
  | unjoined _ _ => exact ⟨List.Subset.refl _, fun _ _ => .inl ⟨_, rfl⟩⟩
  | refused _ _ => exact ⟨List.Subset.refl _, fun _ _ => .inl ⟨_, rfl⟩⟩
  | _ => exact ⟨List.Subset.refl _, fun _ hopened => nomatch hopened⟩

theorem inScope_start (d : Dialect) (base : TableMap) (type : EntityClass) :
    (start d base).InScope type ↔ type.name = base.type.name := by
  rw [InScope, source_start]
  split <;> simp_all

/-- Besides its base table, a query has those tables in scope for which a join came to its condition. -/
theorem History.inScope_iff {steps : List Step} {q : Query} (h : History steps q)
    (type : EntityClass) : q.InScope type ↔ type.name = q.base.type.name ∨
      ∃ step ∈ steps, ∃ joined, step.request.opened? step.before = some joined ∧
        joined.map.type.name = type.name := by
  induction h generalizing type with
  | start hrun =>
      obtain ⟨d, base, rfl⟩ := eq_start_of_query hrun
      exact (inScope_start d base type).trans (by simp [Query.start])
  | @request steps q _ r s ih =>
      have heffect := r.effect s q
      have hbase : ∀ type, type.name = q.base.type.name → q.InScope type :=
        fun type hname => (ih type).mpr (.inl hname)
      rw [heffect.inScope_iff hbase type, ih, heffect.base_eq]
      simp only [List.mem_append, List.mem_singleton]
      constructor
      · rintro ((hname | ⟨step, hstep, hopened⟩) | hopened)
        · exact .inl hname
        · exact .inr ⟨step, .inl hstep, hopened⟩
        · exact .inr ⟨_, .inr rfl, hopened⟩
      · rintro (hname | ⟨step, hstep | rfl, hopened⟩)
        · exact .inl (.inl hname)
        · exact .inl (.inr ⟨step, hstep, hopened⟩)
        · exact .inr hopened

/-- A join that came to its condition was refused there, or is one of the query's. -/
theorem History.joined_or_stray {steps : List Step} {q : Query} (h : History steps q) :
    ∀ step ∈ steps, ∀ joined, step.request.opened? step.before = some joined →
      step.stray? = some joined ∨
      ∃ j ∈ q.joins, j.table = joined.map.table ∧ some j.aliasName = joined.aliasName := by
  induction h with
  | start hrun => exact fun _ hstep => absurd hstep List.not_mem_nil
  | @request steps q _ r s ih =>
      obtain ⟨hkept, hjoined⟩ := (r.effect s q).joins
      intro step hstep joined hopened
      rcases List.mem_append.mp hstep with hstep | hstep
      · rcases ih step hstep joined hopened with hstray | ⟨j, hj, hmatch⟩
        · exact .inl hstray
        · exact .inr ⟨j, hkept hj, hmatch⟩
      · obtain rfl := List.mem_singleton.mp hstep
        rcases hjoined joined hopened with ⟨e, he⟩ | hmatch
        · exact .inl (by rw [Step.stray?, he]; exact hopened)
        · exact .inr hmatch

/-! ## Tables that are read -/

/-- The table of the class is the base table, or one for which a join was asked that stands among the
tables of the query's statements. -/
def Reads (steps : List Step) (q : Query) (type : EntityClass) : Prop :=
  type.name = q.base.type.name ∨
    ∃ step ∈ steps, ∃ joined, step.request.opened? step.before = some joined ∧
      joined.map.type.name = type.name ∧
      ∃ j ∈ q.joins, j.table = joined.map.table ∧ some j.aliasName = joined.aliasName ∧
        ∃ before after, q.fromText = before ++ q.dialect.joinText j ++ after

theorem exists_fromText_eq {q : Query} {j : Join} (hj : j ∈ q.joins) :
    ∃ before after, q.fromText = before ++ q.dialect.joinText j ++ after := by
  obtain ⟨earlier, later, hjoins⟩ := List.append_of_mem hj
  have htext : Text.joined "" (q.joins.map q.dialect.joinText) =
      Text.joined "" (earlier.map q.dialect.joinText) ++ q.dialect.joinText j ++
        Text.joined "" (later.map q.dialect.joinText) := by
    rw [hjoins, List.map_append, List.map_cons, Text.joined_empty_append, Text.joined_empty_cons,
      String.append_assoc]
  rw [fromText, htext]
  exact ⟨" FROM " ++ q.dialect.quote q.base.table ++
      q.baseSource.qualifier.elim "" (fun name => " " ++ q.dialect.quote name) ++
        Text.joined "" (earlier.map q.dialect.joinText),
    Text.joined "" (later.map q.dialect.joinText) ++ q.whereText,
    by simp only [String.append_assoc]⟩

/-- Unless a join of its table was refused in its condition, a class may be asked about if the query
reads its table, and whatever refers to it is refused otherwise. -/
theorem History.reads_or_refuses {steps : List Step} {q : Query} (h : History steps q)
    {type : EntityClass}
    (hstray : ∀ step ∈ steps, ∀ s ∈ step.stray?, s.map.type.name ≠ type.name) :
    Reads steps q type ∧ q.InScope type ∨ ¬ Reads steps q type ∧ q.Refuses type := by
  by_cases hin : q.InScope type
  · refine .inl ⟨?_, hin⟩
    rcases (h.inScope_iff type).mp hin with hname | ⟨step, hstep, joined, hopened, hname⟩
    · exact .inl hname
    · rcases h.joined_or_stray step hstep joined hopened with hlost | ⟨j, hj, htable, halias⟩
      · exact absurd hname (hstray step hstep joined hlost)
      · exact .inr ⟨step, hstep, joined, hopened, hname, j, hj, htable, halias,
          exists_fromText_eq hj⟩
  · refine .inr ⟨fun hreads => hin ((h.inScope_iff type).mpr ?_), refuses_of_not_inScope hin⟩
    exact hreads.imp id fun ⟨step, hstep, joined, hopened, hname, _⟩ =>
      ⟨step, hstep, joined, hopened, hname⟩

/-- A class that no query reads. -/
def tagClass : EntityClass := { noteClass with name := "Tag" }

/-- The items with their notes, by a column of another class. -/
def notesByTag : Request :=
  .build (.join .inner noteClass (some "n") [.test ⟨"id", .equal, "owner", some tagClass⟩])

theorem reads_or_refuses_tags :
    (∀ step ∈ steps [notesByTag] (default, start .sqlite TableMap.itemMap),
      ∀ s ∈ step.stray?, s.map.type.name ≠ tagClass.name) ∧
    (Reads (steps [notesByTag] (default, start .sqlite TableMap.itemMap))
        (itemsAfter [notesByTag]) tagClass ∧ (itemsAfter [notesByTag]).InScope tagClass ∨
      ¬ Reads (steps [notesByTag] (default, start .sqlite TableMap.itemMap))
        (itemsAfter [notesByTag]) tagClass ∧ (itemsAfter [notesByTag]).Refuses tagClass) ∧
    ¬ (itemsAfter [notesByTag]).InScope tagClass := by
  have hstray : ∀ step ∈ steps [notesByTag] (default, start .sqlite TableMap.itemMap),
      ∀ s ∈ step.stray?, s.map.type.name ≠ tagClass.name := by decide +kernel
  refine ⟨hstray, (history_itemsAfter [notesByTag]).reads_or_refuses hstray, ?_⟩
  rintro ⟨s, hs⟩
  have hout : ((itemsAfter [notesByTag]).source (some tagClass)).toOption = none := by
    decide +kernel
  rw [hs] at hout
  contradiction

/-- Behind the refused join nothing joins the notes, but a test of them is accepted, and the selection
names a table that it does not read. -/
theorem stray_notes :
    ¬ Reads (steps [notesByTag] (default, start .sqlite TableMap.itemMap))
      (itemsAfter [notesByTag]) noteClass ∧
    ((pens (some noteClass)).action.perform (default, itemsAfter [notesByTag])).1 = .ok () ∧
    ∃ st, (itemsAfter [notesByTag, .build (pens (some noteClass))]).selectStatement = .ok st ∧
      st.sql = "SELECT * FROM \"item\" WHERE \"n\".\"name\" = ?" := by
  refine ⟨?_, rfl, _, rfl, by decide +kernel⟩
  have hnone : (itemsAfter [notesByTag]).joins = [] := rfl
  have hbase : noteClass.name ≠ (itemsAfter [notesByTag]).base.type.name := by decide +kernel
  rintro (hname | ⟨-, -, -, -, -, j, hj, -⟩)
  · exact hbase hname
  · rw [hnone] at hj
    contradiction

end Query

end RelationalMapper
