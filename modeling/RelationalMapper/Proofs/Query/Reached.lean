import RelationalMapper.Proofs.Action
import RelationalMapper.Proofs.Query.Written
import RelationalMapper.Query.Run

/-! # Queries that fluent calls lead to

A query is reached from the table of a class by calls on it. Between the calls the session may have
been used for anything else, so each call runs on a session of its own. -/

namespace RelationalMapper

/-- A call that puts a query together. -/
inductive FluentCall where
  | setAlias (aliasName : Option String)
  | filter (steps : List (Piece Query.FilterTest))
  | join (kind : JoinKind) (type : EntityClass) (aliasName : Option String)
      (steps : List (Piece Query.JoinTest))
  | select (steps : List Projection.Step)
  | orderBy (property : String) (ascending : Bool) (entity : Option EntityClass)
  | limit (n : Value)
  | offset (n : Value)
  deriving DecidableEq, Inhabited

def FluentCall.action : FluentCall → Action (Session × Query) Unit
  | .setAlias aliasName => (Query.setAlias aliasName).second
  | .filter steps => (Query.filter steps).second
  | .join kind type aliasName steps => Query.joinClass kind type aliasName steps
  | .select steps => (Query.select steps).second
  | .orderBy property ascending entity => (Query.orderBy property ascending entity).second
  | .limit n => (Query.limit n).second
  | .offset n => (Query.offset n).second

namespace Query

/-- The query comes from calls whose outcomes are admitted. -/
inductive Reached (admits : FluentCall → Except Failure Unit → Prop) : Query → Prop where
  | start {type : EntityClass} {s s' : Session} {q : Query}
      (hrun : (Session.query type).perform s = (.ok q, s')) : Reached admits q
  | call {call : FluentCall} {s s' : Session} {q q' : Query} {r : Except Failure Unit}
      (hq : Reached admits q) (hrun : call.action.perform (s, q) = (r, (s', q')))
      (hr : admits call r) : Reached admits q'

theorem eq_start_of_query {type : EntityClass} {s s' : Session} {q : Query}
    (hrun : (Session.query type).perform s = (.ok q, s')) : ∃ d base, q = start d base := by
  obtain ⟨base, s, -, hq⟩ := Action.of_perform_bind_ok hrun
  obtain ⟨s', s'', -, hq⟩ := Action.of_perform_bind_ok hq
  rw [Action.perform_pure, Prod.mk.injEq, Except.ok.injEq] at hq
  exact ⟨_, base, hq.1.symm⟩

/-- Every call succeeds. -/
def succeeding (_ : FluentCall) (r : Except Failure Unit) : Prop := r = .ok ()

/-! ## What the calls keep -/

section Keeps

open RelationalMapper.Action

variable {γ : Type} {view : Query → γ}

theorem checkOpen_of_open {q : Query} (h : q.executed = false) :
    checkOpen.perform q = (.ok (), q) := by
  simp [checkOpen, perform_bind, h]

theorem checkOpen_of_executed {q : Query} (h : q.executed = true) :
    checkOpen.perform q = (.error (.misuse (.alreadyExecuted q.base.type.name)), q) := by
  simp [checkOpen, perform_bind, h]

theorem keeps_checkOpen : Keeps view checkOpen := by
  refine keeps_get.bind fun q => ?_
  split
  · exact keeps_throw _
  · exact keeps_pure _

theorem keeps_setAlias
    (hview : ∀ (q : Query) a s, view { q with baseAlias := a, scope := s } = view q)
    (aliasName : Option String) : Keeps view (setAlias aliasName) :=
  keeps_checkOpen.bind fun _ => keeps_modify fun q => hview q _ _

theorem keeps_filterStep
    (hview : ∀ (q : Query) n c, view { q with tests := n, condition := c } = view q)
    (step : Piece FilterTest) : Keeps view (filterStep step) := by
  have hpiece : ∀ piece, Keeps view (addPiece piece) :=
    fun piece => keeps_modify fun q => hview q q.tests _
  have hexpect : Keeps view expectTest := keeps_modify fun q => hview q _ _
  cases step with
  | test t =>
      cases t with
      | compare property op value entity =>
          exact keeps_get.bind fun q => (keeps_ofExcept _).bind fun _ => hexpect.bind fun _ =>
            hpiece _
      | among property values entity =>
          exact keeps_get.bind fun q => (keeps_ofExcept _).bind fun _ => hexpect.bind fun _ =>
            (keeps_ofExcept _).bind fun _ => hpiece _
  | _ => exact hpiece _

theorem keeps_filter
    (hview : ∀ (q : Query) n c, view { q with tests := n, condition := c } = view q)
    (steps : List (Piece FilterTest)) : Keeps view (filter steps) :=
  keeps_checkOpen.bind fun _ => keeps_forM (keeps_filterStep hview) steps

theorem keeps_select (hview : ∀ (q : Query) p, view { q with projection := p } = view q)
    (steps : List Projection.Step) : Keeps view (select steps) :=
  keeps_checkOpen.bind fun _ => (keeps_ofExcept _).bind fun _ => keeps_modify fun q => hview q _

theorem keeps_orderBy (hview : ∀ (q : Query) o, view { q with order := o } = view q)
    (property : String) (ascending : Bool) (entity : Option EntityClass) :
    Keeps view (orderBy property ascending entity) :=
  keeps_checkOpen.bind fun _ => keeps_get.bind fun _ => (keeps_ofExcept _).bind fun _ =>
    keeps_modify fun q => hview q _

theorem keeps_setWindow (hview : ∀ (q : Query) w, view { q with window := w } = view q)
    (f : Window → Window) : Keeps view (setWindow f) :=
  keeps_checkOpen.bind fun _ => keeps_modify fun q => hview q _

theorem keeps_offset
    (hview : ∀ (q : Query) o, view { q with window := { q.window with offset := o } } = view q)
    (n : Value) : Keeps view (offset n) :=
  keeps_checkOpen.bind fun _ => keeps_modify fun q => hview q n

theorem keeps_join
    (hview : ∀ (q : Query) s j, view { q with scope := s, joins := j } = view q) (kind : JoinKind)
    (map : TableMap) (aliasName : String) (steps : List (Piece JoinTest)) :
    Keeps view (join kind map aliasName steps) :=
  (keeps_modify fun q => hview q _ q.joins).bind fun _ => keeps_get.bind fun _ =>
    (keeps_ofExcept _).bind fun _ => keeps_modify fun q => hview q q.scope _

theorem keeps_joinClass
    (hview : ∀ (q : Query) s j, view { q with scope := s, joins := j } = view q) (kind : JoinKind)
    (type : EntityClass) (aliasName : Option String) (steps : List (Piece JoinTest)) :
    Keeps (fun p => view p.2) (joinClass kind type aliasName steps) := by
  have hopen : Keeps (fun p : Session × Query => view p.2) checkOpen.second :=
    fun p => (keeps_checkOpen : Keeps view checkOpen) p.2
  have hmap : Keeps (fun p : Session × Query => view p.2) (Session.tableMap type).first :=
    fun _ => rfl
  exact hopen.bind fun _ => (keeps_ofExcept _).bind fun _ => hmap.bind fun _ p =>
    keeps_join hview kind _ _ steps p.2

/-- What the call leaves of a query: the condition, unless it is a filter, and the limit, unless it is
one. -/
structure Spares (call : FluentCall) (q q' : Query) : Prop where
  base_eq : q'.base = q.base
  executed_eq : q'.executed = q.executed
  condition_eq : (∀ steps, call ≠ .filter steps) → q'.tests = q.tests ∧ q'.condition = q.condition
  limit_eq : (∀ n, call ≠ .limit n) → q'.window.limit = q.window.limit

theorem keeps_of_spares {call : FluentCall}
    (hview : ∀ q q', Spares call q q' → view q' = view q) :
    Keeps (fun p => view p.2) call.action := by
  have hsecond {a : Action Query Unit} (h : Keeps view a) :
      Keeps (fun p : Session × Query => view p.2) a.second := fun p => h p.2
  cases call with
  | setAlias aliasName =>
      exact hsecond (keeps_setAlias (fun _ _ _ => hview _ _ ⟨rfl, rfl, fun _ => ⟨rfl, rfl⟩,
        fun _ => rfl⟩) aliasName)
  | filter steps =>
      exact hsecond (keeps_filter (fun _ _ _ => hview _ _ ⟨rfl, rfl, fun h => absurd rfl (h steps),
        fun _ => rfl⟩) steps)
  | join kind type aliasName steps =>
      exact keeps_joinClass (fun _ _ _ => hview _ _ ⟨rfl, rfl, fun _ => ⟨rfl, rfl⟩, fun _ => rfl⟩)
        kind type aliasName steps
  | select steps =>
      exact hsecond (keeps_select (fun _ _ => hview _ _ ⟨rfl, rfl, fun _ => ⟨rfl, rfl⟩,
        fun _ => rfl⟩) steps)
  | orderBy property ascending entity =>
      exact hsecond (keeps_orderBy (fun _ _ => hview _ _ ⟨rfl, rfl, fun _ => ⟨rfl, rfl⟩,
        fun _ => rfl⟩) property ascending entity)
  | limit n =>
      exact hsecond (keeps_setWindow (fun _ _ => hview _ _ ⟨rfl, rfl, fun _ => ⟨rfl, rfl⟩,
        fun h => absurd rfl (h n)⟩) _)
  | offset n =>
      exact hsecond (keeps_offset (fun _ _ => hview _ _ ⟨rfl, rfl, fun _ => ⟨rfl, rfl⟩,
        fun _ => rfl⟩) n)

end Keeps

/-- Whatever becomes of a call, it leaves the rest of the query. -/
theorem spares_action (call : FluentCall) (p : Session × Query) :
    Spares call p.2 (call.action.perform p).2.2 where
  base_eq := keeps_of_spares (fun _ _ h => h.base_eq) p
  executed_eq := keeps_of_spares (fun _ _ h => h.executed_eq) p
  condition_eq hcall := ⟨keeps_of_spares (fun _ _ h => (h.condition_eq hcall).1) p,
    keeps_of_spares (fun _ _ h => (h.condition_eq hcall).2) p⟩
  limit_eq hcall := keeps_of_spares (fun _ _ h => h.limit_eq hcall) p

/-- A query that was executed takes no call. -/
theorem perform_action_of_executed (call : FluentCall) (s : Session) {q : Query}
    (h : q.executed = true) :
    call.action.perform (s, q) = (.error (.misuse (.alreadyExecuted q.base.type.name)), (s, q)) := by
  have hopen := checkOpen_of_executed h
  have hsecond {f : Unit → Action Query Unit} :
      ((checkOpen >>= f).second : Action (Session × Query) Unit).perform (s, q) =
        (.error (.misuse (.alreadyExecuted q.base.type.name)), (s, q)) := by
    rw [Action.perform_second, Action.perform_bind_error hopen]
  cases call with
  | join kind type aliasName steps =>
      refine Action.perform_bind_error ?_
      rw [Action.perform_second, hopen]
  | _ => exact hsecond

/-! ## Joined tables -/

/-- The tests of every join condition stand apart. -/
def JoinsSpaced (joins : List Join) : Prop := ∀ j ∈ joins, j.condition.Spaced

theorem spaced_addTest {τ : Type} {c : Condition τ} (hc : c.Spaced) (t : τ) :
    Condition.Spaced (c.addTest t) := by
  unfold Condition.addTest Condition.connected
  split
  · refine (hc.append (.singleton _) ?_).append (.singleton _) ?_ <;> simp [Piece.test?]
  · rename_i h
    refine hc.append (.singleton _) ?_
    intro p hp next hnext
    obtain rfl : .test t = next := by simpa using hnext
    cases p <;> simp_all [Condition.needsAnd, Piece.test?]

theorem spaced_concat {τ : Type} {c : Condition τ} (hc : c.Spaced) {p : Piece τ}
    (hp : p.test? = none) : Condition.Spaced (c ++ [p]) :=
  hc.append (.singleton _) (by simp [hp])

end Query

end RelationalMapper
