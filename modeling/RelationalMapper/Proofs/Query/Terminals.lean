import RelationalMapper.Proofs.Channel.Handing
import RelationalMapper.Proofs.Query.Guard
import RelationalMapper.Proofs.Session.Operation

/-! # What executing a query hands over

A call that executes a query hands its statement over, or nothing if there is none, and leaves the query
used up; only a writing call without a statement leaves it as it was. Whatever the driver answers, nothing
more is handed over. -/

namespace RelationalMapper

open RelationalMapper.Action

/-- What comes of a statement that may not be compiled. -/
def Connection.sends (c : Connection) : Except Failure Query.Compiled → List Call
  | .ok st => c.handing (c.sending st.sql st.params)
  | .error _ => []

theorem Connection.length_sends (c : Connection) (r : Except Failure Query.Compiled) :
    (c.sends r).length ≤ 1 := by
  cases r with
  | ok st => exact c.length_handing _
  | error e => exact Nat.zero_le 1

namespace Query

/-! ## Between statements -/

/-- Nothing is handed over, and the query stays as it is. -/
structure Idles (p p' : Session × Query) : Prop where
  silent : p.1.connection.KeepsSilent p'.1.connection
  query_eq : p'.2 = p.2

instance : IsPreorder (Session × Query) Idles where
  refl _ := ⟨refl_of Connection.KeepsSilent _, rfl⟩
  trans _ _ _ h h' := ⟨h.silent.trans h'.silent, h'.query_eq.trans h.query_eq⟩

/-- These statements are handed over, and the query is left like this. -/
structure Sends (statements : List Call) (left : Query) (p p' : Session × Query) : Prop where
  hands : p.1.connection.Hands statements p'.1.connection
  query_eq : p'.2 = left

section Sends

variable {statements : List Call} {left : Query} {p p' p'' : Session × Query} {α β : Type}

theorem Sends.idles (h : Sends statements left p p') (h' : Idles p' p'') :
    Sends statements left p p'' := ⟨h.hands.silent h'.silent, h'.query_eq.trans h.query_eq⟩

theorem sends_bind {a : Action (Session × Query) α} {f : α → Action (Session × Query) β}
    (ha : Sends statements left p (a.perform p).2) (hf : ∀ x, Leads Idles id (f x)) :
    Sends statements left p ((a >>= f).perform p).2 := ha.idles (leads_after_bind a hf p)

theorem sends_forget {a : Action (Session × Query) α}
    (ha : Sends statements left p (a.perform p).2) :
    Sends statements left p (a.forget.perform p).2 := sends_bind ha fun _ => leads_pure _

end Sends

theorem leads_readAs (type : Option EntityClass) (rows : List Row) :
    Leads Idles id (readAs type rows) := by
  intro p
  have hreport : ∀ n, Passes (Regardless Connection.KeepsSilent) id (Connection.report n) :=
    fun _ _ => .of_trace_eq rfl rfl
  have hquery : Keeps (fun p : Session × Query => p.2) (readAs type rows) := by
    have hentities : ∀ m : TableMap, Keeps (fun p : Session × Query => p.2)
        (rows.mapM fun row => ((Session.onConnection (row.toEntity m)).first)) := fun m =>
      keeps_mapM (fun _ _ => rfl) rows
    refine keeps_get.bind fun (_, q) => ?_
    cases type with
    | none => exact hentities q.base
    | some t => exact Keeps.bind (fun _ => rfl) hentities
  exact ⟨(passes_readAs hreport type rows p).1, hquery p⟩

/-! ## Reading -/

/-- The query after it was executed. -/
def used (q : Query) : Query := { q with executed := true }

theorem perform_use {q : Query} (h : q.executed = false) : use.perform q = (.ok (), q.used) := by
  rw [use, perform_bind_ok (checkOpen_of_open h)]
  rfl

/-- A query is used up before its statement is compiled. -/
theorem sends_fetch (compile : Query → Except Failure String) (s : Session) {q : Query}
    (h : q.executed = false) :
    Sends (s.connection.sends ((compile q.used).map (⟨·, q.params⟩))) q.used (s, q)
      ((fetch compile).perform (s, q)).2 := by
  have huse : (use.second : Action (Session × Query) Unit).perform (s, q) =
      (.ok (), (s, q.used)) := by
    rw [perform_second, perform_use h]
  rw [fetch, perform_bind_ok huse, perform_bind_ok (perform_get _), perform_bind, perform_ofExcept]
  cases compile q.used with
  | error e => exact ⟨Connection.hands_of_trace_eq rfl, rfl⟩
  | ok sql => exact ⟨s.connection.hands_query sql q.params, rfl⟩

/-- The limit is a number, if there is one. -/
def Limited (q : Query) : Prop := q.window.limit = .null ∨ ∃ n : Int, q.window.limit = .int n

/-- The query with a limit of one row at most. -/
def clamped (q : Query) : Query := (limitToOne.perform q).2

theorem perform_limitToOne {q : Query} (h : q.Limited) :
    limitToOne.perform q = (.ok (), q.clamped) := by
  refine Prod.ext ?_ rfl
  rcases h with h | ⟨n, h⟩
  · simp [limitToOne, perform_bind, h]
  · have hexceeds : (Value.int n).exceedsOne = .ok (decide (1 < n)) := rfl
    have hnull : (Value.int n = .null) = False := by simp [Value.int, Value.null]
    by_cases hn : 1 < n <;> simp [limitToOne, perform_bind, h, hexceeds, hnull, hn]

theorem perform_limitToOne_second (s : Session) {q : Query} (h : q.Limited) :
    (limitToOne.second : Action (Session × Query) Unit).perform (s, q) =
      (.ok (), (s, q.clamped)) := by
  rw [perform_second, perform_limitToOne h]

/-- A limit is only lowered to one. -/
theorem clamped_cases {q : Query} (h : q.Limited) :
    q.clamped = q ∨ q.clamped = { q with window := { q.window with limit := .int 1 } } := by
  rcases h with h | ⟨n, h⟩
  · exact .inr (by simp [clamped, limitToOne, perform_bind, h])
  · have hexceeds : (Value.int n).exceedsOne = .ok (decide (1 < n)) := rfl
    have hnull : (Value.int n = .null) = False := by simp [Value.int, Value.null]
    by_cases hn : 1 < n <;> simp [clamped, limitToOne, perform_bind, h, hexceeds, hnull, hn]

/-! ## Writing -/

namespace Mutation

/-- What is wrong with a call that writes: it has no test, or nothing to assign. -/
def rejection? : Mutation → Query → Option Misuse
  | update none, _ => some .noSetBuilder
  | update (some given), q =>
    if q.tests = 0 then some (.emptyWhere "update") else if given = [] then some .emptySet else none
  | delete, q => if q.tests = 0 then some (.emptyWhere "delete") else none

theorem compile_of_rejected {m : Mutation} {q : Query} {cause : Misuse}
    (h : m.rejection? q = some cause) : m.compile q = .error (.misuse cause) := by
  cases m with
  | update assignments =>
      cases assignments with
      | none => exact congrArg (Except.error ∘ Failure.misuse) (Option.some.inj h)
      | some given => grind [compile_update, rejection?]
  | delete => grind [compile_delete, rejection?]

theorem compile_of_accepted {m : Mutation} {q : Query} (h : m.rejection? q = none) :
    ∃ st, m.compile q = .ok st := by
  cases m with
  | update assignments =>
      cases assignments with
      | none => contradiction
      | some given =>
          have htests : q.tests ≠ 0 := by grind [rejection?]
          have hgiven : given ≠ [] := by grind [rejection?]
          exact ⟨_, by rw [compile_update, if_neg htests, if_neg hgiven]⟩
  | delete =>
      have htests : q.tests ≠ 0 := by grind [rejection?]
      exact ⟨_, by rw [compile_delete, if_neg htests]⟩

/-- A query is used up when its statement was compiled. -/
theorem sends (m : Mutation) (s : Session) {q : Query} (hopen : q.executed = false)
    (haccepted : m.rejection? q = none) :
    Sends (s.connection.sends (m.compile q)) q.used (s, q) (m.action.perform (s, q)).2 := by
  obtain ⟨st, hst⟩ := compile_of_accepted haccepted
  rw [m.perform_action s hopen, hst]
  exact ⟨s.connection.hands_execute st.sql st.params m.operation, rfl⟩

theorem perform_of_rejected (m : Mutation) (s : Session) {q : Query} (hopen : q.executed = false)
    {cause : Misuse} (h : m.rejection? q = some cause) :
    m.action.perform (s, q) = (.error (.misuse cause), (s, q)) := by
  rw [m.perform_action s hopen, compile_of_rejected h]

end Mutation

/-! ## Terminals -/

namespace Terminal

/-- The statement of the call. -/
def compile : Terminal → Query → Except Failure Compiled
  | rows | entities _ | first | frame => selectStatement
  | count => fun q => q.countText.map (⟨·, q.params⟩)
  | update assignments => (Mutation.update assignments).compile
  | delete => Mutation.delete.compile

/-- The query that the statement is made of. -/
def prepared : Terminal → Query → Query
  | first => clamped
  | _ => id

theorem prepared_cases (t : Terminal) {q : Query} (h : q.Limited) : t.prepared q = q ∨
    t.prepared q = { q with window := { q.window with limit := .int 1 } } := by
  cases t with
  | first => exact clamped_cases h
  | _ => exact .inl rfl

/-- What is wrong with the call, if it writes. -/
def rejection? : Terminal → Query → Option Misuse
  | update assignments => (Mutation.update assignments).rejection?
  | delete => Mutation.delete.rejection?
  | _ => fun _ => none

/-- A call that is not rejected hands its statement over and uses the query up. -/
theorem sends (t : Terminal) (s : Session) {q : Query} (hopen : q.executed = false)
    (hlimited : q.Limited) (haccepted : t.rejection? q = none) :
    Sends (s.connection.sends (t.compile (t.prepared q))) (t.prepared q).used (s, q)
      (t.action.perform (s, q)).2 := by
  have hrows {q : Query} (h : q.executed = false) : Sends (s.connection.sends q.selectStatement)
      q.used (s, q) (toRows.perform (s, q)).2 := sends_fetch selectText s h
  cases t with
  | rows => exact sends_forget (hrows hopen)
  | entities type => exact sends_forget (sends_bind (hrows hopen) (leads_readAs type))
  | first =>
      have hclamped : q.clamped.executed = false := by
        rcases clamped_cases hlimited with h | h <;> rw [h, hopen]
      have hlimit := perform_limitToOne_second s hlimited
      have hlist := sends_bind (hrows hclamped) (leads_readAs none)
      have hfirst := sends_bind (f := fun rows => pure rows.head?) hlist fun _ => leads_pure _
      refine sends_forget ⟨?_, ?_⟩
      · rw [Query.first, perform_bind_ok hlimit]
        exact hfirst.hands
      · rw [Query.first, perform_bind_ok hlimit]
        exact hfirst.query_eq
  | frame => exact sends_forget (sends_bind (hrows hopen) fun _ => leads_pure _)
  | count =>
      exact sends_forget (sends_bind (sends_fetch countText s hopen) fun _ => leads_ofExcept _)
  | update assignments =>
      exact sends_forget ((Mutation.update assignments).sends s hopen haccepted)
  | delete => exact sends_forget (Mutation.delete.sends s hopen haccepted)

theorem compile_of_rejected {t : Terminal} {q : Query} {cause : Misuse}
    (h : t.rejection? q = some cause) : t.compile (t.prepared q) = .error (.misuse cause) := by
  cases t with
  | update assignments => exact Mutation.compile_of_rejected (m := .update assignments) h
  | delete => exact Mutation.compile_of_rejected (m := .delete) h
  | _ => contradiction

theorem perform_of_rejected (t : Terminal) (s : Session) {q : Query} (hopen : q.executed = false)
    {cause : Misuse} (h : t.rejection? q = some cause) :
    t.action.perform (s, q) = (.error (.misuse cause), (s, q)) := by
  cases t with
  | update assignments =>
      exact perform_bind_error ((Mutation.update assignments).perform_of_rejected s hopen h)
  | delete => exact perform_bind_error (Mutation.delete.perform_of_rejected s hopen h)
  | _ => contradiction

/-- A query that was used up takes no call. -/
theorem perform_of_executed (t : Terminal) (s : Session) {q : Query} (h : q.executed = true)
    (hlimited : q.Limited) :
    t.action.perform (s, q) =
      (.error (.misuse (.alreadyExecuted q.base.type.name)), (s, t.prepared q)) := by
  have hfetch (compile : Query → Except Failure String) {q : Query} (h : q.executed = true) :
      (fetch compile).perform (s, q) =
        (.error (.misuse (.alreadyExecuted q.base.type.name)), (s, q)) := by
    have huse : use.perform q = (.error (.misuse (.alreadyExecuted q.base.type.name)), q) :=
      perform_bind_error (checkOpen_of_executed h)
    refine perform_bind_error ?_
    rw [perform_second, huse]
  have hwrite (m : Mutation) : m.action.perform (s, q) =
      (.error (.misuse (.alreadyExecuted q.base.type.name)), (s, q)) := by
    rw [m.action_eq]
    refine perform_bind_error ?_
    rw [perform_second, checkOpen_of_executed h]
  cases t with
  | rows => exact perform_bind_error (hfetch _ h)
  | entities type => exact perform_bind_error (perform_bind_error (hfetch _ h))
  | first =>
      have hclamped : q.clamped.executed = true ∧ q.clamped.base = q.base := by
        rcases clamped_cases hlimited with h' | h' <;> rw [h'] <;> exact ⟨h, rfl⟩
      have hlimit := perform_limitToOne_second s hlimited
      refine perform_bind_error ?_
      rw [Query.first, perform_bind_ok hlimit, ← hclamped.2]
      exact perform_bind_error (perform_bind_error (hfetch _ hclamped.1))
  | frame => exact perform_bind_error (perform_bind_error (hfetch _ h))
  | count => exact perform_bind_error (perform_bind_error (hfetch _ h))
  | update assignments => exact perform_bind_error (hwrite (.update assignments))
  | delete => exact perform_bind_error (hwrite .delete)

end Terminal

end Query

end RelationalMapper
