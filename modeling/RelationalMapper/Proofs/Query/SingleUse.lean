import RelationalMapper.Proofs.Query.Terminals

/-! # Queries are used once

Whatever is asked of a query, in whatever order and whatever becomes of it, at most one statement is
handed over. What a query shows of its statements changes nothing, and is what it would hand over. -/

namespace RelationalMapper.Query

open RelationalMapper.Action

/-! ## Inspections -/

/-- What a query shows: the selection with or without its parameters, an update, or a deletion. -/
inductive Inspection where
  | text
  | selection
  | update (assignments : Option (List (String × Value)))
  | deletion
  deriving DecidableEq, Inhabited

namespace Inspection

def compile : Inspection → Query → Except Failure Compiled
  | text | selection => selectStatement
  | update assignments => (·.updateStatement assignments)
  | deletion => deleteStatement

/-- What is shown of the statement. -/
def shows : Inspection → Compiled → String
  | text => (·.sql)
  | _ => (·.described)

def action (i : Inspection) : Action Query String := inspect fun q => (i.compile q).map i.shows

theorem perform_of_open (i : Inspection) {q : Query} (h : q.executed = false) :
    i.action.perform q = ((i.compile q).map i.shows, q) := by
  rw [action, inspect, perform_bind_ok (checkOpen_of_open h), perform_bind_ok (perform_get q),
    perform_ofExcept]

theorem perform_of_executed (i : Inspection) {q : Query} (h : q.executed = true) :
    i.action.perform q = (.error (.misuse (.alreadyExecuted q.base.type.name)), q) :=
  perform_bind_error (checkOpen_of_executed h)

/-- The query stays as it is. -/
theorem keeps (i : Inspection) : Keeps id i.action :=
  keeps_checkOpen.bind fun _ => keeps_get.bind fun _ => keeps_ofExcept _

end Inspection

/-- The call hands over the statement that the inspection shows. -/
def Terminal.ShownBy : Terminal → Inspection → Prop
  | rows, .text | rows, .selection | entities _, .text | entities _, .selection => True
  | update assignments, .update shown => assignments = shown
  | delete, .deletion => True
  | _, _ => False

theorem Terminal.ShownBy.compile_eq {t : Terminal} {i : Inspection} (h : t.ShownBy i) (q : Query) :
    t.compile (t.prepared q) = i.compile q := by
  cases t <;> cases i <;> first | rfl | contradiction | (obtain rfl : _ = _ := h; rfl)

/-! ## Requests -/

/-- What is asked of a query. -/
inductive Request where
  | build (call : FluentCall)
  | inspect (inspection : Inspection)
  | execute (terminal : Terminal)
  deriving Inhabited

namespace Request

/-- The request, with what it shows. -/
def action : Request → Action (Session × Query) (Option String)
  | build call => call.action >>= fun _ => pure none
  | inspect i => some <$> i.action.second
  | execute t => t.action >>= fun _ => pure none

def inspects : Request → Bool
  | inspect _ => true
  | _ => false

/-- A limit that is set is a number, or none. -/
def Limited : Request → Prop
  | build (.limit n) => n = .null ∨ ∃ k : Int, n = .int k
  | _ => True

/-- What is wrong with a request to write. -/
def rejection? : Request → Query → Option Misuse
  | execute t => t.rejection?
  | _ => fun _ => none

/-- The request uses an open query up. -/
def consumes : Request → Query → Bool
  | execute t, q => (t.rejection? q).isNone
  | _, _ => false

end Request

/-- A request with the states before and behind it. -/
structure Step where
  request : Request
  before : Session × Query
  result : Except Failure (Option String)
  after : Session × Query

/-- The statements that were handed over at the request. -/
def Step.statements (step : Step) : List Call :=
  step.before.1.connection.statementsSince step.after.1.connection

def Request.step (r : Request) (p : Session × Query) : Step :=
  ⟨r, p, (r.action.perform p).1, (r.action.perform p).2⟩

/-- Requests one after the other, whatever becomes of them. -/
def steps : List Request → Session × Query → List Step
  | [], _ => []
  | r :: requests, p => r.step p :: steps requests (r.step p).after

/-! ## One request -/

/-- A call that puts a query together does not touch the connection. -/
theorem keeps_connection (call : FluentCall) : Keeps (fun p => p.1.connection) call.action := by
  cases call with
  | join kind type aliasName steps =>
      have hmap : Keeps (fun p : Session × Query => p.1.connection) (Session.tableMap type).first :=
        fun p => Session.keeps_tableMap type p.1
      exact Keeps.bind (fun _ => rfl) fun _ => (keeps_ofExcept _).bind fun _ => hmap.bind fun _ _ =>
        rfl
  | _ => exact fun _ => rfl

/-- What a request makes of a query. -/
structure Follows (r : Request) (q q' : Query) : Prop where
  base_eq : q'.base = q.base
  limited : q'.Limited
  executed_eq : q'.executed = (q.executed || r.consumes q)

/-- The request is refused because the query was executed before, and nothing is handed over. -/
structure Step.Spent (base : TableMap) (step : Step) : Prop where
  result_eq : step.result = .error (.misuse (.alreadyExecuted base.type.name))
  session_eq : step.after.1 = step.before.1
  statements_eq : step.statements = []

/-- The inspection, asked just before, shows what is handed over: one statement with its parameters,
or nothing if it fails. -/
def Step.Shown (i : Inspection) (step : Step) : Prop :=
  (∃ st, i.compile step.before.2 = .ok st ∧
    (i.action.perform step.before.2).1 = .ok (i.shows st) ∧
    step.statements = step.before.1.connection.handing
      (step.before.1.connection.sending st.sql st.params)) ∨
  ∃ e, (i.action.perform step.before.2).1 = .error e ∧ step.statements = []

namespace Request

variable {p : Session × Query}

theorem statements_of_connection_eq {r : Request}
    (h : (r.step p).after.1.connection = p.1.connection) : (r.step p).statements = [] :=
  (Connection.hands_of_trace_eq (congrArg (·.driver.trace) h)).statementsSince_eq

theorem perform_build (call : FluentCall) (p : Session × Query) :
    ((build call).action.perform p).2 = (call.action.perform p).2 := by
  rw [action, perform_bind]
  rcases call.action.perform p with ⟨_ | _, p'⟩ <;> rfl

theorem perform_execute (t : Terminal) (p : Session × Query) :
    ((execute t).action.perform p).2 = (t.action.perform p).2 := by
  rw [action, perform_bind]
  rcases t.action.perform p with ⟨_ | _, p'⟩ <;> rfl

/-- An inspection leaves all as it is. -/
theorem after_inspect (i : Inspection) (p : Session × Query) : ((inspect i).step p).after = p := by
  have hkept : (i.action.perform p.2).2 = p.2 := i.keeps p.2
  rw [step, action, perform_map]
  exact Prod.ext rfl hkept

/-- A query that was used up takes no request. -/
theorem spent_of_executed (r : Request) (h : p.2.executed = true) (hlimited : p.2.Limited) :
    (r.step p).Spent p.2.base := by
  have hrefused : ∃ q', r.action.perform p =
      (.error (.misuse (.alreadyExecuted p.2.base.type.name)), (p.1, q')) := by
    cases r with
    | build call => exact ⟨_, perform_bind_error (perform_action_of_executed call p.1 h)⟩
    | inspect i =>
        refine ⟨p.2, ?_⟩
        rw [action, perform_map, perform_second, i.perform_of_executed h]
        rfl
    | execute t => exact ⟨_, perform_bind_error (t.perform_of_executed p.1 h hlimited)⟩
  obtain ⟨q', hrefused⟩ := hrefused
  have hafter : (r.step p).after = (p.1, q') := congrArg Prod.snd hrefused
  exact ⟨congrArg Prod.fst hrefused, by rw [hafter]; rfl,
    statements_of_connection_eq (by rw [hafter])⟩

/-- A limit that is set is one of those that are admitted. -/
theorem limited_build {call : FluentCall} (hcall : (build call).Limited) (hlimited : p.2.Limited) :
    (call.action.perform p).2.2.Limited := by
  by_cases hlimit : ∃ n, call = .limit n
  · obtain ⟨n, rfl⟩ := hlimit
    cases hexecuted : p.2.executed with
    | true =>
        rw [perform_action_of_executed (.limit n) p.1 hexecuted]
        exact hlimited
    | false =>
        have hset : ((FluentCall.limit n).action.perform p).2.2.window.limit = n := by
          rw [FluentCall.action, perform_second, limit, setWindow,
            perform_bind_ok (checkOpen_of_open hexecuted)]
          rfl
        rw [Query.Limited, hset]
        exact hcall
  · rw [Query.Limited, (spares_action call p).limit_eq fun n hn => hlimit ⟨n, hn⟩]
    exact hlimited

theorem follows (r : Request) (hr : r.Limited) (hlimited : p.2.Limited) :
    Follows r p.2 (r.step p).after.2 := by
  cases r with
  | build call =>
      have hspared := spares_action call p
      have hafter := perform_build call p
      rw [step, hafter]
      exact ⟨hspared.base_eq, limited_build hr hlimited, by simp [consumes, hspared.executed_eq]⟩
  | inspect i =>
      rw [after_inspect]
      exact ⟨rfl, hlimited, by simp [consumes]⟩
  | execute t =>
      rw [step, perform_execute]
      have hprepared : (t.prepared p.2).base = p.2.base ∧ (t.prepared p.2).Limited ∧
          (t.prepared p.2).executed = p.2.executed := by
        rcases t.prepared_cases hlimited with h | h <;> rw [h]
        · exact ⟨rfl, hlimited, rfl⟩
        · exact ⟨rfl, .inr ⟨1, rfl⟩, rfl⟩
      obtain ⟨hbase, hlimit, hexecuted⟩ := hprepared
      cases hopen : p.2.executed with
      | true =>
          rw [t.perform_of_executed p.1 hopen hlimited]
          exact ⟨hbase, hlimit, by simp [hexecuted, hopen]⟩
      | false =>
          cases hrejection : t.rejection? p.2 with
          | some cause =>
              rw [t.perform_of_rejected p.1 hopen hrejection]
              exact ⟨rfl, hlimited, by simp [consumes, hrejection]⟩
          | none =>
              rw [(t.sends p.1 hopen hlimited hrejection).query_eq]
              exact ⟨hbase, hlimit, by simp [consumes, hrejection, used]⟩

/-- Nothing is handed over unless the query is used up. -/
theorem statements_of_not_consumes {r : Request} (hopen : p.2.executed = false)
    (h : r.consumes p.2 = false) : (r.step p).statements = [] := by
  cases r with
  | build call =>
      refine statements_of_connection_eq ?_
      rw [step, perform_build]
      exact keeps_connection call p
  | inspect i => exact statements_of_connection_eq (by rw [after_inspect])
  | execute t =>
      have hrejected : (t.rejection? p.2).isSome = true := by simpa [consumes] using h
      obtain ⟨cause, hcause⟩ := Option.isSome_iff_exists.mp hrejected
      refine statements_of_connection_eq ?_
      rw [step, perform_execute, t.perform_of_rejected p.1 hopen hcause]

theorem statements_of_execute {t : Terminal} (hopen : p.2.executed = false)
    (hlimited : p.2.Limited) (haccepted : t.rejection? p.2 = none) :
    ((execute t).step p).statements = p.1.connection.sends (t.compile (t.prepared p.2)) := by
  have hsent := (t.sends p.1 hopen hlimited haccepted).hands
  rw [← perform_execute] at hsent
  exact hsent.statementsSince_eq

theorem length_statements (r : Request) (hopen : p.2.executed = false) (hlimited : p.2.Limited) :
    (r.step p).statements.length ≤ 1 := by
  cases h : r.consumes p.2 with
  | false => simp [statements_of_not_consumes hopen h]
  | true =>
      cases r with
      | execute t =>
          have haccepted : t.rejection? p.2 = none := by simpa [consumes] using h
          rw [statements_of_execute hopen hlimited haccepted]
          exact p.1.connection.length_sends _
      | _ => contradiction

theorem rejected {r : Request} (hopen : p.2.executed = false) {cause : Misuse}
    (h : r.rejection? p.2 = some cause) :
    (r.step p).result = .error (.misuse cause) ∧ (r.step p).after = p := by
  cases r with
  | execute t =>
      have hrefused := t.perform_of_rejected p.1 hopen h
      have hrun : (execute t).action.perform p = (.error (.misuse cause), p) :=
        perform_bind_error hrefused
      exact ⟨congrArg Prod.fst hrun, congrArg Prod.snd hrun⟩
  | _ => contradiction

/-- A call that executes the query hands over what the inspection shows. -/
theorem shown {t : Terminal} {i : Inspection} (h : t.ShownBy i) (hopen : p.2.executed = false)
    (hlimited : p.2.Limited) : ((execute t).step p).Shown i := by
  have hinspected : (i.action.perform p.2).1 = (i.compile p.2).map i.shows := by
    rw [i.perform_of_open hopen]
  cases hrejection : t.rejection? p.2 with
  | some cause =>
      have hcompile := Terminal.compile_of_rejected hrejection
      rw [h.compile_eq] at hcompile
      refine .inr ⟨.misuse cause, ?_, statements_of_not_consumes hopen ?_⟩
      · exact hinspected.trans (by rw [hcompile]; rfl)
      · simp [consumes, hrejection]
  | none =>
      have hsent := statements_of_execute hopen hlimited hrejection
      rw [h.compile_eq] at hsent
      cases hcompile : i.compile p.2 with
      | ok st =>
          rw [hcompile] at hsent hinspected
          exact .inl ⟨st, hcompile, hinspected, hsent⟩
      | error e =>
          rw [hcompile] at hsent hinspected
          exact .inr ⟨e, hinspected, hsent⟩

end Request

/-! ## Runs -/

/-- How a query is used by what is asked of it, one request after the other. -/
structure UsedOnce (p : Session × Query) (requests : List Request) : Prop where
  once : ((steps requests p).flatMap Step.statements).length ≤ 1
  /-- Behind a request that left the query executed, every other one is refused. -/
  spent : (steps requests p).Pairwise fun earlier later =>
    earlier.after.2.executed = true → later.Spent p.2.base
  /-- What executes a query uses it up, unless it is rejected; nothing else does. -/
  consumed : ∀ step ∈ steps requests p, step.before.2.executed = false →
    step.after.2.executed = step.request.consumes step.before.2
  /-- Writing without a test or an assignment leaves all as it was. -/
  rejected : ∀ step ∈ steps requests p, step.before.2.executed = false →
    ∀ cause, step.request.rejection? step.before.2 = some cause →
      step.result = .error (.misuse cause) ∧ step.after = step.before
  /-- Without the inspections, the other requests come to the same. -/
  invisible : (steps requests p).filter (!·.request.inspects) =
    steps (requests.filter (!·.inspects)) p
  shown : ∀ step ∈ steps requests p, step.before.2.executed = false →
    ∀ t i, step.request = .execute t → t.ShownBy i → step.Shown i

section Runs

variable {requests : List Request} {p : Session × Query}

/-- Every limit on the way of a run is admitted. -/
theorem of_mem_steps (hrequests : ∀ r ∈ requests, r.Limited) (hlimited : p.2.Limited) {step : Step}
    (h : step ∈ steps requests p) :
    ∃ (r : Request) (p' : Session × Query), step = r.step p' ∧ r.Limited ∧ p'.2.Limited := by
  induction requests generalizing p with
  | nil => contradiction
  | cons r requests ih =>
      have hr := hrequests r List.mem_cons_self
      rcases List.mem_cons.mp h with rfl | h
      · exact ⟨r, p, rfl, hr, hlimited⟩
      · exact ih (fun r' hr' => hrequests r' (List.mem_cons_of_mem r hr'))
          (r.follows hr hlimited).limited h

/-- Of a query that was used up, every request is refused. -/
theorem spent_of_mem_steps (hrequests : ∀ r ∈ requests, r.Limited) (hlimited : p.2.Limited)
    (hexecuted : p.2.executed = true) {step : Step} (h : step ∈ steps requests p) :
    step.Spent p.2.base := by
  induction requests generalizing p with
  | nil => contradiction
  | cons r requests ih =>
      rcases List.mem_cons.mp h with rfl | h
      · exact r.spent_of_executed hexecuted hlimited
      · have hfollows := r.follows (hrequests r List.mem_cons_self) hlimited
        rw [← hfollows.base_eq]
        exact ih (fun r' hr' => hrequests r' (List.mem_cons_of_mem r hr')) hfollows.limited
          (by simp [hfollows.executed_eq, hexecuted]) h

theorem length_statements_steps (hrequests : ∀ r ∈ requests, r.Limited) (hlimited : p.2.Limited) :
    ((steps requests p).flatMap Step.statements).length ≤ 1 := by
  induction requests generalizing p with
  | nil => exact Nat.zero_le 1
  | cons r requests ih =>
      have hrest := fun r' hr' => hrequests r' (List.mem_cons_of_mem r hr')
      have hfollows := r.follows (hrequests r List.mem_cons_self) hlimited
      rw [steps, List.flatMap_cons, List.length_append]
      cases hafter : (r.step p).after.2.executed with
      | true =>
          have hnone : (steps requests (r.step p).after).flatMap Step.statements = [] :=
            List.flatMap_eq_nil_iff.mpr fun step hstep =>
              (spent_of_mem_steps hrest hfollows.limited hafter hstep).statements_eq
          rw [hnone, List.length_nil, Nat.add_zero]
          cases hopen : p.2.executed with
          | true => simp [(r.spent_of_executed hopen hlimited).statements_eq]
          | false => exact r.length_statements hopen hlimited
      | false =>
          have heither := hfollows.executed_eq.symm.trans hafter
          obtain ⟨hopen, hconsumes⟩ := Bool.or_eq_false_iff.mp heither
          rw [Request.statements_of_not_consumes hopen hconsumes, List.length_nil, Nat.zero_add]
          exact ih hrest hfollows.limited

theorem pairwise_spent_steps (hrequests : ∀ r ∈ requests, r.Limited) (hlimited : p.2.Limited) :
    (steps requests p).Pairwise fun earlier later =>
      earlier.after.2.executed = true → later.Spent p.2.base := by
  induction requests generalizing p with
  | nil => exact .nil
  | cons r requests ih =>
      have hrest := fun r' hr' => hrequests r' (List.mem_cons_of_mem r hr')
      have hfollows := r.follows (hrequests r List.mem_cons_self) hlimited
      have hpairs := ih hrest hfollows.limited
      rw [hfollows.base_eq] at hpairs
      refine .cons (fun later hlater hafter => ?_) hpairs
      rw [← hfollows.base_eq]
      exact spent_of_mem_steps hrest hfollows.limited hafter hlater

theorem filter_steps (requests : List Request) (p : Session × Query) :
    (steps requests p).filter (!·.request.inspects) = steps (requests.filter (!·.inspects)) p := by
  induction requests generalizing p with
  | nil => rfl
  | cons r requests ih =>
      cases r with
      | inspect i =>
          rw [steps, List.filter_cons_of_neg (by simp [Request.step, Request.inspects]),
            List.filter_cons_of_neg (by simp [Request.inspects]), Request.after_inspect]
          exact ih p
      | build call => exact congrArg (_ :: ·) (ih _)
      | execute t => exact congrArg (_ :: ·) (ih _)

/-- Whatever is asked of a query, at most one statement is handed over, and what it shows of its
statements changes nothing. -/
theorem usedOnce (hrequests : ∀ r ∈ requests, r.Limited) (hlimited : p.2.Limited) :
    UsedOnce p requests where
  once := length_statements_steps hrequests hlimited
  spent := pairwise_spent_steps hrequests hlimited
  consumed step hstep hopen := by
    obtain ⟨r, p', rfl, hr, hlimit⟩ := of_mem_steps hrequests hlimited hstep
    have hopen : p'.2.executed = false := hopen
    have hexecuted := (r.follows hr hlimit).executed_eq
    rwa [hopen, Bool.false_or] at hexecuted
  rejected step hstep hopen cause hcause := by
    obtain ⟨r, p', rfl, -, -⟩ := of_mem_steps hrequests hlimited hstep
    exact r.rejected hopen hcause
  invisible := filter_steps requests p
  shown step hstep hopen t i ht hi := by
    obtain ⟨r, p', rfl, -, hlimit⟩ := of_mem_steps hrequests hlimited hstep
    obtain rfl : r = .execute t := ht
    exact Request.shown hi hopen hlimit

end Runs

/-- A deletion that is rejected, guarded, shown, executed, and asked for again. -/
def deletingFifth : List Request :=
  [.execute .delete, .build (.filter [.test (.compare "id" .equal (.int 5) none)]),
    .inspect .deletion, .execute .delete, .execute .delete]

/-- The item is deleted once. -/
theorem usedOnce_deletingFifth :
    let p : Session × Query := ({ connection := { dialect := .sqlServer } }, allItems)
    UsedOnce p deletingFifth ∧ (steps deletingFifth p).flatMap Step.statements =
      [.execute "DELETE FROM [item] WHERE [id] = ?" (some [.int 5])] := by
  refine ⟨usedOnce ?_ (.inl rfl), by decide +kernel⟩
  simp [deletingFifth, Request.Limited]

end RelationalMapper.Query
