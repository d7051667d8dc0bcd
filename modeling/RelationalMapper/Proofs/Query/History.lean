import RelationalMapper.Proofs.Query.Asked
import RelationalMapper.Proofs.Query.SingleUse

/-! # What was asked of a query

A query has a history: the requests since its start, each on a session of its own, whatever became of
them. What a request can make of a query is said once, for all that is proved about histories. -/

namespace RelationalMapper

open RelationalMapper.Action

/-- A table in scope was put there last, or was there before under another name. -/
theorem Scope.source_put {scope : Scope} {name : String} {s found : Source} {type : EntityClass}
    (h : Scope.source (Entries.put scope name s) type = .ok found) :
    type.name = name ∧ found = s ∨ type.name ≠ name ∧ scope.source type = .ok found := by
  by_cases hname : type.name = name
  · rw [Scope.source, hname, Entries.get?_put_self] at h
    exact .inl ⟨hname, (Except.ok.inj h).symm⟩
  · rw [Scope.source, Entries.get?_put_of_ne _ _ hname] at h
    exact .inr ⟨hname, h⟩

namespace Query

/-- The query comes from these requests. -/
inductive History : List Step → Query → Prop where
  | start {type : EntityClass} {s s' : Session} {q : Query}
      (hrun : (Session.query type).perform s = (.ok q, s')) : History [] q
  | request {steps : List Step} {q : Query} (hq : History steps q) (r : Request) (s : Session) :
      History (steps ++ [r.step (s, q)]) (r.step (s, q)).after.2

/-- At the start the base table is in scope, without an alias. -/
theorem source_start (d : Dialect) (base : TableMap) (type : EntityClass) :
    (start d base).source (some type) = if type.name = base.type.name then .ok ⟨base, none⟩
      else .error (.misuse (.outOfScope type.name)) := by
  rw [source, Scope.source, start]
  by_cases hname : base.type.name = type.name
  · simp [Entries.get?, hname]
  · simp [Entries.get?, hname, Ne.symm hname]

/-! ## What a request makes of a query -/

/-- The query without its page, as if it was not executed yet. -/
def body (q : Query) : Query := { q with window := {}, executed := false }

theorem eq_of_body_eq {q q' : Query} (h : q.body = q'.body) :
    q = { q' with window := q.window, executed := q.executed } := by
  cases q
  cases q'
  simp_all [body]

def withSource (q : Query) (joined : Source) : Query :=
  { q with scope := q.scope.put joined.map.type.name joined }

/-- The table that a join puts in scope, if it comes to its condition. -/
def opened? (p : Session × Query) : FluentCall → Option Source
  | .join _ type aliasName _ =>
    if p.2.executed then none
    else match checkAlias type aliasName, ((Session.tableMap type).perform p.1).1 with
      | .ok name, .ok m => some ⟨m, some name⟩
      | _, _ => none
  | _ => none

def Request.opened? (p : Session × Query) : Request → Option Source
  | .build call => Query.opened? p call
  | _ => none

/-- The pieces that a filter adds to the condition. -/
def Request.asked (p : Session × Query) : Request → List (Piece Test)
  | .build (.filter steps) => if p.2.executed then [] else p.2.asked steps
  | _ => []

theorem Request.asked_filter {p : Session × Query} {steps : List (Piece FilterTest)}
    (h : p.2.executed = false) : (Request.build (.filter steps)).asked p = p.2.asked steps := by
  rw [asked, if_neg (by simp [h])]

/-- The pieces of the condition of a join, if none of them is refused. -/
def Request.joins? (p : Session × Query) : Request → Option (List (Piece ColumnTest))
  | .build (.join kind type aliasName steps) => do
    let joined ← Query.opened? p (.join kind type aliasName steps)
    (steps.mapM (Piece.settled ((p.2.withSource joined).joinTest joined))).toOption
  | _ => none

/-- The table of a join whose condition was refused. -/
def Step.stray? (step : Step) : Option Source :=
  match step.result with
  | .ok _ => none
  | .error _ => step.request.opened? step.before

/-- Nothing but the page and the use of the query may change. -/
def Request.rests : Request → Bool
  | .build (.limit _) | .build (.offset _) | .inspect _ | .execute _ => true
  | .build _ => false

theorem Request.of_rests {r : Request} (h : r.rests = true) (p : Session × Query) :
    r.opened? p = none ∧ r.asked p = [] ∧ r.joins? p = none := by
  rcases r with call | _ | _
  · cases call <;> first | exact ⟨rfl, rfl, rfl⟩ | contradiction
  · exact ⟨rfl, rfl, rfl⟩
  · exact ⟨rfl, rfl, rfl⟩

theorem Request.joins?_of_opened? {call : FluentCall} {p : Session × Query}
    (h : Query.opened? p call = none) : (Request.build call).joins? p = none := by
  cases call with
  | join kind type aliasName steps => rw [joins?, h]; rfl
  | _ => rfl

/-- What comes of a request, and what it makes of the query. -/
inductive Effect (p : Session × Query) :
    Request → Except Failure (Option String) → Query → Prop where
  | rested {r : Request} {result : Except Failure (Option String)} {w : Window} {executed : Bool}
      (hr : r.rests = true) : Effect p r result { p.2 with window := w, executed := executed }
  | refused {call : FluentCall} {e : Failure} (hopened : opened? p call = none)
      (hasked : (Request.build call).asked p = []) : Effect p (.build call) (.error e) p.2
  | aliased (aliasName : Option String) :
      Effect p (.build (.setAlias aliasName)) (.ok none)
        { p.2 with
          baseAlias := aliasName
          scope := p.2.scope.put p.2.base.type.name ⟨p.2.base, aliasName⟩ }
  | filtered {steps : List (Piece FilterTest)} {result : Except Failure Unit} {n : Nat}
      {c : Condition Test} (hopen : p.2.executed = false)
      (hc : c = (p.2.asked steps).foldl Condition.extend p.2.condition ∨
        result = .error unlistable ∧
          c = Condition.connected ((p.2.asked steps).foldl Condition.extend p.2.condition)) :
      Effect p (.build (.filter steps)) (result.map fun _ => none)
        { p.2 with tests := n, condition := c }
  | joined {kind : JoinKind} {type : EntityClass} {aliasName : Option String}
      {steps : List (Piece JoinTest)} {m : TableMap} {name : String}
      {pieces : List (Piece ColumnTest)}
      (hopened : opened? p (.join kind type aliasName steps) = some ⟨m, some name⟩)
      (hsettled : steps.mapM (Piece.settled ((p.2.withSource ⟨m, some name⟩).joinTest
        ⟨m, some name⟩)) = .ok pieces) :
      Effect p (.build (.join kind type aliasName steps)) (.ok none)
        { p.2.withSource ⟨m, some name⟩ with
          joins := p.2.joins ++ [⟨kind, m.table, name, pieces.foldl Condition.extend []⟩] }
  /-- The condition of a join is refused when its table is in scope already. -/
  | unjoined {kind : JoinKind} {type : EntityClass} {aliasName : Option String}
      {steps : List (Piece JoinTest)} {m : TableMap} {name : String} {e : Failure}
      (hopened : opened? p (.join kind type aliasName steps) = some ⟨m, some name⟩)
      (hsettled : steps.mapM (Piece.settled ((p.2.withSource ⟨m, some name⟩).joinTest
        ⟨m, some name⟩)) = .error e) :
      Effect p (.build (.join kind type aliasName steps)) (.error e)
        (p.2.withSource ⟨m, some name⟩)
  | selected {steps : List Projection.Step} {parts : Projection}
      (hparts : Projection.ofSteps steps = .ok parts) :
      Effect p (.build (.select steps)) (.ok none)
        { p.2 with projection := p.2.projection ++ parts }
  | ordered {property : String} {ascending : Bool} {entity : Option EntityClass}
      {column : ColumnRef} (hcolumn : p.2.column entity property = .ok column) :
      Effect p (.build (.orderBy property ascending entity)) (.ok none)
        { p.2 with order := p.2.order ++ [⟨column, ascending⟩] }

theorem effect_of_body_eq {p : Session × Query} {r : Request}
    {result : Except Failure (Option String)} {q : Query} (hr : r.rests = true)
    (hbody : q.body = p.2.body) : Effect p r result q := by
  rw [eq_of_body_eq hbody]
  exact .rested hr

/-! ### Building -/

theorem perform_setAlias (aliasName : Option String) {q : Query} (h : q.executed = false) :
    (setAlias aliasName).perform q =
      (.ok (), { q with
        baseAlias := aliasName
        scope := q.scope.put q.base.type.name ⟨q.base, aliasName⟩ }) := by
  rw [setAlias, perform_bind_ok (checkOpen_of_open h)]
  rfl

theorem perform_select (steps : List Projection.Step) {q : Query} (h : q.executed = false) :
    (select steps).perform q =
      match Projection.ofSteps steps with
      | .ok parts => (.ok (), { q with projection := q.projection ++ parts })
      | .error e => (.error e, q) := by
  rw [select, perform_bind_ok (checkOpen_of_open h), perform_bind, perform_ofExcept]
  cases Projection.ofSteps steps <;> rfl

theorem perform_orderBy (property : String) (ascending : Bool) (entity : Option EntityClass)
    {q : Query} (h : q.executed = false) :
    (orderBy property ascending entity).perform q =
      match q.column entity property with
      | .ok column => (.ok (), { q with order := q.order ++ [⟨column, ascending⟩] })
      | .error e => (.error e, q) := by
  rw [orderBy, perform_bind_ok (checkOpen_of_open h), perform_bind_ok (perform_get q), perform_bind,
    perform_ofExcept]
  cases q.column entity property <;> rfl

/-- A join puts its table in scope before its condition is stated. -/
theorem perform_join (kind : JoinKind) (m : TableMap) (name : String)
    (steps : List (Piece JoinTest)) (q : Query) :
    (join kind m name steps).perform q =
      match steps.mapM (Piece.settled ((q.withSource ⟨m, some name⟩).joinTest
          ⟨m, some name⟩)) with
      | .ok pieces => (.ok (), { q.withSource ⟨m, some name⟩ with
          joins := q.joins ++ [⟨kind, m.table, name, pieces.foldl Condition.extend []⟩] })
      | .error e => (.error e, q.withSource ⟨m, some name⟩) := by
  have hput : (modify fun q => { q with
      scope := q.scope.put m.type.name ⟨m, some name⟩ } : Action Query Unit).perform q =
        (.ok (), q.withSource ⟨m, some name⟩) := rfl
  rw [join, perform_bind_ok hput, perform_bind_ok (perform_get _), perform_bind, perform_ofExcept,
    foldlM_onStep]
  cases steps.mapM (Piece.settled ((q.withSource ⟨m, some name⟩).joinTest ⟨m, some name⟩)) <;> rfl

theorem effect_join (kind : JoinKind) (type : EntityClass) (aliasName : Option String)
    (steps : List (Piece JoinTest)) {s : Session} {q : Query} (h : q.executed = false) :
    Effect (s, q) (.build (.join kind type aliasName steps))
      (((joinClass kind type aliasName steps).perform (s, q)).1.map fun _ => none)
      ((joinClass kind type aliasName steps).perform (s, q)).2.2 := by
  have hopen : (checkOpen.second : Action (Session × Query) Unit).perform (s, q) =
      (.ok (), (s, q)) := by
    rw [perform_second, checkOpen_of_open h]
  rw [joinClass, perform_bind_ok hopen, perform_bind, perform_ofExcept]
  cases hname : checkAlias type aliasName with
  | error e => exact .refused (by simp [opened?, hname]) rfl
  | ok name =>
      dsimp only
      rw [perform_bind, perform_first]
      rcases hmap : (Session.tableMap type).perform s with ⟨e | m, s'⟩
      · exact .refused (by simp [opened?, hname, hmap]) rfl
      · have hopened : opened? (s, q) (.join kind type aliasName steps) =
            some ⟨m, some name⟩ := by
          simp [opened?, hname, hmap, h]
        dsimp only
        rw [perform_second, perform_join]
        cases hsettled : steps.mapM (Piece.settled ((q.withSource ⟨m, some name⟩).joinTest
            ⟨m, some name⟩)) with
        | ok pieces => exact .joined hopened hsettled
        | error e => exact .unjoined hopened hsettled

theorem effect_build (call : FluentCall) (s : Session) (q : Query) :
    Effect (s, q) (.build call) ((call.action.perform (s, q)).1.map fun _ => none)
      (call.action.perform (s, q)).2.2 := by
  cases hexecuted : q.executed with
  | true =>
      rw [perform_action_of_executed call s hexecuted]
      exact .refused (by cases call <;> simp [opened?, hexecuted])
        (by cases call <;> simp [Request.asked, hexecuted])
  | false =>
      have hbody {f : Window → Window} : ((setWindow f).perform q).2.body = q.body := by
        rw [setWindow, perform_bind_ok (checkOpen_of_open hexecuted)]
        rfl
      cases call with
      | setAlias aliasName =>
          rw [FluentCall.action, perform_second, perform_setAlias aliasName hexecuted]
          exact .aliased aliasName
      | filter steps =>
          rw [FluentCall.action, perform_second, filter,
            perform_bind_ok (checkOpen_of_open hexecuted)]
          rcases hrun : (steps.forM filterStep).perform q with ⟨result, q'⟩
          obtain ⟨n, c, rfl, hc⟩ := filterSteps_cases hrun
          exact .filtered hexecuted hc
      | join kind type aliasName steps => exact effect_join kind type aliasName steps hexecuted
      | select steps =>
          rw [FluentCall.action, perform_second, perform_select steps hexecuted]
          cases hparts : Projection.ofSteps steps with
          | ok parts => exact .selected hparts
          | error e => exact .refused rfl rfl
      | orderBy property ascending entity =>
          rw [FluentCall.action, perform_second, perform_orderBy property ascending entity hexecuted]
          cases hcolumn : q.column entity property with
          | ok column => exact .ordered hcolumn
          | error e => exact .refused rfl rfl
      | limit n | offset n =>
          refine effect_of_body_eq rfl ?_
          rw [FluentCall.action, perform_second]
          exact hbody

/-! ### Executing -/

theorem keeps_limitToOne : Keeps body limitToOne := by
  intro q
  rw [limitToOne, perform_bind_ok (perform_get q)]
  dsimp only
  split
  · rfl
  · rw [perform_bind, perform_ofExcept]
    cases q.window.limit.exceedsOne with
    | ok clamps => cases clamps <;> rfl
    | error e => rfl

/-- To execute a query changes nothing but its page and its use. -/
theorem keeps_terminal (t : Terminal) : Keeps (fun p => p.2.body) t.action := by
  have hsecond {α : Type} {a : Action Query α} (h : Keeps body a) :
      Keeps (fun p : Session × Query => p.2.body) a.second := fun p => h p.2
  have huse : Keeps body use := keeps_checkOpen.bind fun _ => keeps_modify fun _ => rfl
  have hforget {α : Type} {a : Action (Session × Query) α} (h : Keeps (fun p => p.2.body) a) :
      Keeps (fun p => p.2.body) a.forget := h.bind fun _ => keeps_pure _
  have hfetch (compile : Query → Except Failure String) :
      Keeps (fun p : Session × Query => p.2.body) (fetch compile) :=
    (hsecond huse).bind fun _ => keeps_get.bind fun _ => (keeps_ofExcept _).bind fun _ _ => rfl
  have hwrite (operation : String) (compile : Query → Except Failure Compiled) :
      Keeps (fun p : Session × Query => p.2.body) (write operation compile) :=
    (hsecond keeps_checkOpen).bind fun _ => keeps_get.bind fun _ => (keeps_ofExcept _).bind
      fun _ => (hsecond huse).bind fun _ _ => rfl
  have hlist (type : Option EntityClass) :
      Keeps (fun p : Session × Query => p.2.body) (toList type) :=
    (hfetch selectText).bind fun rows p => congrArg body (leads_readAs type rows p).query_eq
  cases t with
  | rows => exact hforget (hfetch selectText)
  | entities type => exact hforget (hlist type)
  | first =>
      exact hforget ((hsecond keeps_limitToOne).bind fun _ => (hlist none).bind fun _ =>
        keeps_pure _)
  | frame => exact hforget ((hfetch selectText).bind fun _ => keeps_pure _)
  | count => exact hforget ((hfetch countText).bind fun _ => keeps_ofExcept _)
  | update assignments => exact hforget (hwrite _ _)
  | delete => exact hforget (hwrite _ _)

/-! ## Histories -/

theorem Request.effect (r : Request) (s : Session) (q : Query) :
    Effect (s, q) r (r.step (s, q)).result (r.step (s, q)).after.2 := by
  cases r with
  | build call =>
      have h := effect_build call s q
      rw [← perform_build] at h
      have hresult : ((build call).action.perform (s, q)).1 =
          (call.action.perform (s, q)).1.map fun _ => none := by
        rw [action, perform_bind]
        rcases call.action.perform (s, q) with ⟨_ | _, p'⟩ <;> rfl
      rwa [← hresult] at h
  | inspect i => exact effect_of_body_eq rfl (by rw [after_inspect])
  | execute t =>
      refine effect_of_body_eq rfl ?_
      rw [step, perform_execute]
      exact keeps_terminal t (s, q)

/-- Where requests lead. -/
def left (p : Session × Query) (requests : List Request) : Session × Query :=
  requests.foldl (fun p r => (r.step p).after) p

theorem History.steps {past : List Step} {q : Query} (h : History past q) (s : Session)
    (requests : List Request) :
    History (past ++ Query.steps requests (s, q)) (left (s, q) requests).2 := by
  induction requests generalizing past q s with
  | nil => simpa [Query.steps, left] using h
  | cons r requests ih =>
      have hrest := ih (h.request r s) (r.step (s, q)).after.1
      rwa [List.append_assoc] at hrest

/-- The query on items behind some requests. -/
def itemsAfter (requests : List Request) : Query :=
  (left (default, start .sqlite TableMap.itemMap) requests).2

theorem history_itemsAfter (requests : List Request) :
    History (steps requests (default, start .sqlite TableMap.itemMap)) (itemsAfter requests) :=
  (History.start (show (Session.query TableMap.itemClass).perform
    { connection := { dialect := .sqlite } } = _ from rfl)).steps default requests

/-! ### What is kept of requests -/

/-- A filter adds the tests that it asks for, and nothing else does. -/
theorem Effect.tests_eq {p : Session × Query} {r : Request}
    {result : Except Failure (Option String)} {q : Query} (h : Effect p r result q) :
    q.condition.tests = p.2.condition.tests ++ Condition.tests (r.asked p) := by
  cases h with
  | rested hr =>
      rw [(Request.of_rests hr p).2.1]
      exact (List.append_nil _).symm
  | refused _ hasked =>
      rw [hasked]
      exact (List.append_nil _).symm
  | filtered hopen hc =>
      rw [Request.asked_filter hopen]
      rcases hc with rfl | ⟨-, rfl⟩ <;> simp [Condition.tests_foldl_extend]
  | _ => exact (List.append_nil _).symm

/-- A query has the tests that its requests asked for. -/
theorem History.tests_eq {steps : List Step} {q : Query} (h : History steps q) :
    q.condition.tests =
      steps.flatMap fun step => Condition.tests (step.request.asked step.before) := by
  induction h with
  | start hrun =>
      obtain ⟨d, base, rfl⟩ := eq_start_of_query hrun
      rfl
  | request _ r s ih =>
      rw [(r.effect s _).tests_eq, ih, List.flatMap_append, List.flatMap_singleton]
      rfl

def Request.filters : Request → Bool
  | .build (.filter _) => true
  | _ => false

/-- The condition grows by what a filter asks for, unless values of it cannot be listed. -/
theorem Effect.condition_eq {p : Session × Query} {r : Request}
    {result : Except Failure (Option String)} {q : Query} (h : Effect p r result q)
    (hlisted : r.filters = true → result ≠ .error unlistable) :
    q.condition = (r.asked p).foldl Condition.extend p.2.condition := by
  cases h with
  | rested hr => rw [(Request.of_rests hr p).2.1, List.foldl_nil]
  | refused _ hasked => rw [hasked, List.foldl_nil]
  | filtered hopen hc =>
      rw [Request.asked_filter hopen]
      rcases hc with rfl | ⟨rfl, -⟩
      · rfl
      · exact absurd rfl (hlisted rfl)
  | _ => rfl

theorem History.condition_eq {steps : List Step} {q : Query} (h : History steps q)
    (hlisted : ∀ step ∈ steps, step.request.filters = true → step.result ≠ .error unlistable) :
    q.condition =
      (steps.flatMap fun step => step.request.asked step.before).foldl Condition.extend [] := by
  induction h with
  | start hrun =>
      obtain ⟨d, base, rfl⟩ := eq_start_of_query hrun
      rfl
  | @request steps q _ r s ih =>
      have hlast : r.filters = true → (r.step (s, q)).result ≠ .error unlistable :=
        hlisted (r.step (s, q)) (by simp)
      rw [(r.effect s q).condition_eq hlast,
        ih fun step hstep => hlisted step (List.mem_append_left _ hstep), List.flatMap_append,
        List.flatMap_singleton, List.foldl_append]
      rfl

/-- The joins grow by the one that is asked for, unless it is refused. -/
theorem Effect.conditions_eq {p : Session × Query} {r : Request}
    {result : Except Failure (Option String)} {q : Query} (h : Effect p r result q) :
    q.joins.map (·.condition) = p.2.joins.map (·.condition) ++
      (r.joins? p).toList.map (·.foldl Condition.extend []) := by
  have hkept (hnone : r.joins? p = none) : p.2.joins.map (·.condition) =
      p.2.joins.map (·.condition) ++ (r.joins? p).toList.map (·.foldl Condition.extend []) := by
    rw [hnone]
    exact (List.append_nil _).symm
  cases h with
  | rested hr => exact hkept (Request.of_rests hr p).2.2
  | refused hopened _ => exact hkept (Request.joins?_of_opened? hopened)
  | @joined kind type aliasName calls _ _ pieces hopened hsettled =>
      have hjoins : Request.joins? p (.build (.join kind type aliasName calls)) = some pieces := by
        rw [Request.joins?, hopened]
        simp [hsettled, Except.toOption]
      rw [hjoins]
      exact List.map_append
  | @unjoined kind type aliasName calls _ _ _ hopened hsettled =>
      refine hkept ?_
      rw [Request.joins?, hopened]
      simp [hsettled, Except.toOption]
  | _ => exact hkept rfl

/-- The joins of a query have the conditions that its requests asked for. -/
theorem History.conditions_eq {steps : List Step} {q : Query} (h : History steps q) :
    q.joins.map (·.condition) = (steps.filterMap fun step => step.request.joins? step.before).map
      (·.foldl Condition.extend []) := by
  induction h with
  | start hrun =>
      obtain ⟨d, base, rfl⟩ := eq_start_of_query hrun
      rfl
  | @request steps q _ r s ih =>
      have hlast : [r.step (s, q)].filterMap (fun step => step.request.joins? step.before) =
          (r.joins? (s, q)).toList := by
        cases hjoins : r.joins? (s, q) <;> simp [Request.step, hjoins]
      rw [(r.effect s q).conditions_eq, ih, List.filterMap_append, List.map_append, hlast]

theorem Effect.joinsSpaced {p : Session × Query} {r : Request}
    {result : Except Failure (Option String)} {q : Query} (h : Effect p r result q)
    (hp : JoinsSpaced p.2.joins) : JoinsSpaced q.joins := by
  cases h with
  | joined _ _ =>
      intro j hj
      rcases List.mem_append.mp hj with hj | hj
      · exact hp j hj
      · rw [List.mem_singleton.mp hj]
        exact spaced_foldl_extend .nil _
  | _ => exact hp

theorem History.joinsSpaced {steps : List Step} {q : Query} (h : History steps q) :
    JoinsSpaced q.joins := by
  induction h with
  | start hrun =>
      obtain ⟨d, base, rfl⟩ := eq_start_of_query hrun
      exact fun _ hj => absurd hj List.not_mem_nil
  | request _ r s ih => exact (r.effect s _).joinsSpaced ih

/-- A query that calls lead to has the calls for its history. -/
theorem Reached.exists_history {admits : FluentCall → Except Failure Unit → Prop} {q : Query}
    (h : q.Reached admits) : ∃ steps, History steps q := by
  induction h with
  | start hrun => exact ⟨[], .start hrun⟩
  | @call call s _ _ _ _ _ hrun _ ih =>
      obtain ⟨steps, hsteps⟩ := ih
      have hstep := hsteps.request (.build call) s
      rw [Request.step, Request.perform_build, hrun] at hstep
      exact ⟨_, hstep⟩

theorem Reached.joinsSpaced {admits : FluentCall → Except Failure Unit → Prop} {q : Query}
    (h : q.Reached admits) : JoinsSpaced q.joins := by
  obtain ⟨steps, hsteps⟩ := h.exists_history
  exact hsteps.joinsSpaced

end Query

end RelationalMapper
