import RelationalMapper.Proofs.Channel.Calls
import RelationalMapper.Proofs.Channel.Outcome

/-! # Sending a statement

Each step of a channel is determined by what its driver refuses. A call is sent through a new cursor:
the old one is closed, a new one is opened, and what the driver refuses is undone. -/

namespace RelationalMapper

open RelationalMapper.Action

/-! ## Calls -/

/-- The question for the last key. -/
def Call.question : Call := .execute Keys.lastKeyQuery none

/-- The text of a statement that is sent with parameters. -/
def Call.text? : Call → Option String
  | .execute sql (some _) => some sql
  | .executeMany sql _ => some sql
  | _ => none

/-- The call opens or closes a cursor. -/
def Call.handlesCursor (c : Call) : Bool := c = .openCursor || c = .closeCursor

/-- The call asks for rows. -/
def Call.fetches (c : Call) : Bool := c = .fetchAll || c = .fetchOne

theorem Call.eq_of_handlesCursor {call : Call} (h : call.handlesCursor = true) :
    call = .openCursor ∨ call = .closeCursor := by
  simpa [handlesCursor] using h

theorem Call.isStatement_of_handlesCursor {call : Call} (h : call.handlesCursor = true) :
    call.isStatement = false := by
  rcases eq_of_handlesCursor h with rfl | rfl <;> rfl

theorem Call.isStatement_of_text? {call : Call} {text : String} (h : call.text? = some text) :
    call.isStatement = true := by
  cases call <;> simp_all [Call.text?, Call.isStatement]

/-! ## Connections and channels after calls -/

/-- The connection when its driver has heard calls. -/
def Connection.hearAll (c : Connection) (calls : List Call) : Connection :=
  { c with driver := c.driver.hearAll calls }

/-- One connection comes from another by these calls. -/
structure Connection.Heard (c : Connection) (calls : List Call) (c' : Connection) : Prop where
  dialect_eq : c'.dialect = c.dialect
  inTransaction_eq : c'.inTransaction = c.inTransaction
  driver_eq : c'.driver = c.driver.hearAll calls

theorem Connection.Heard.rest (c : Connection) : c.Heard [] c := ⟨rfl, rfl, rfl⟩

theorem Connection.Heard.trans {c c' c'' : Connection} {calls more : List Call}
    (h : c.Heard calls c') (h' : c'.Heard more c'') : c.Heard (calls ++ more) c'' := by
  refine ⟨h'.dialect_eq.trans h.dialect_eq, h'.inTransaction_eq.trans h.inTransaction_eq, ?_⟩
  rw [h'.driver_eq, h.driver_eq, Driver.hearAll_append]

theorem Connection.eq_of_mem_commitCalls {c : Connection} {call : Call}
    (h : call ∈ c.commitCalls) : call = .commit := by
  unfold Connection.commitCalls at h
  split at h
  · contradiction
  · exact List.mem_singleton.mp h

theorem Connection.eq_of_mem_rollbackCalls {c : Connection} {call : Call}
    (h : call ∈ c.rollbackCalls) : call = .rollback := by
  unfold Connection.rollbackCalls at h
  split at h
  · contradiction
  · exact List.mem_singleton.mp h

/-- The failure that is passed on when the driver refuses this statement. -/
def Statement.failedBy (s : Statement) (f : Fault) : Failure :=
  if (Failure.fault f).isLibrary then .fault f else s.failed (.fault f)

namespace Channel

variable (ch : Channel)

def hearAll (calls : List Call) : Channel :=
  { ch with connection := ch.connection.hearAll calls }

/-- The channel without its cursor. -/
def shut : Channel := { ch with statement := { ch.statement with cursor := none } }

/-- The channel with this answer in its cursor. -/
def holding (answer : Response) : Channel :=
  { ch with statement := { ch.statement with cursor := some answer } }

/-- The channel with one more call counted. -/
def counted : Channel :=
  { ch with connection := { ch.connection with calls := ch.connection.calls + 1 } }

/-- The call by which an open cursor is closed. -/
def closing : List Call := if ch.statement.cursor.isSome then [.closeCursor] else []

/-- The calls by which a channel comes to a new cursor. -/
def opening : List Call := ch.closing ++ [.openCursor]

theorem handlesCursor_closing : ∀ call ∈ ch.closing, call.handlesCursor = true := by
  unfold closing
  split <;> simp [Call.handlesCursor]

theorem handlesCursor_opening : ∀ call ∈ ch.opening, call.handlesCursor = true :=
  List.forall_mem_append.mpr ⟨ch.handlesCursor_closing, by simp [Call.handlesCursor]⟩

/-- One channel comes from another by these calls, on the same statement. -/
structure Heard (calls : List Call) (ch' : Channel) : Prop where
  connection : ch.connection.Heard calls ch'.connection
  sql_eq : ch'.statement.sql = ch.statement.sql
  operation_eq : ch'.statement.operation = ch.statement.operation

section Primitives

theorem perform_reach_eq (point : FailurePoint) :
    (onDriver (Driver.reach point)).perform ch =
      ((ch.connection.driver.refusal? point.call).elim (.ok ()) (.error <| .fault ·),
        ch.hearAll [point.call]) := by
  rw [perform_onDriver, Driver.perform_reach_eq]
  rfl

theorem perform_send_eq {call : Call} (hcall : call.isStatement = true) :
    (onDriver (Driver.send call)).perform ch =
      ((ch.connection.driver.nextResponse.fault).elim (.ok ch.connection.driver.nextResponse)
        (.error <| .fault ·), ch.hearAll [call]) := by
  have hstate := Driver.perform_send_snd call hcall ch.connection.driver
  have hresult : ((Driver.send call).perform ch.connection.driver).1 =
      (ch.connection.driver.nextResponse.fault).elim (.ok ch.connection.driver.nextResponse)
        (.error <| .fault ·) := by
    rw [Driver.send, perform_ofFunction]
    simp only
    cases ch.connection.driver.nextResponse.fault <;> rfl
  rw [perform_onDriver, hresult, hstate]
  rfl

theorem perform_fetch_eq {call : Call} (hcall : call = .fetchAll ∨ call = .fetchOne)
    (answer : Response) :
    (onDriver (Driver.fetch call answer)).perform ch =
      (answer.fetchFault.elim (.ok ()) (.error <| .fault ·), ch.hearAll [call]) := by
  have hstate : ((Driver.fetch call answer).perform ch.connection.driver).2 =
      ch.connection.driver.hear call := by
    rcases hcall with rfl | rfl <;> exact Driver.perform_fetch_snd _ rfl rfl answer _
  have hresult : ((Driver.fetch call answer).perform ch.connection.driver).1 =
      answer.fetchFault.elim (.ok ()) (.error <| .fault ·) := by
    rw [Driver.fetch, perform_ofFunction]
    cases answer.fetchFault <;> rfl
  rw [perform_onDriver, hresult, hstate]
  rfl

/-- The refusal of the commit behind a statement. -/
def commitRefusal? : Option Fault :=
  if ch.connection.inTransaction then none else ch.connection.driver.refusal? .commit

theorem perform_commit_eq :
    (onConnection Connection.commitUnlessInTransaction).perform ch =
      (ch.commitRefusal?.elim (.ok ()) (.error <| .fault ·),
        ch.hearAll ch.connection.commitCalls) := by
  have hreach := perform_reach_eq ch .commit
  rw [perform_onConnection, Connection.commitUnlessInTransaction, perform_bind, perform_get]
  unfold commitRefusal? Connection.commitCalls
  by_cases h : ch.connection.inTransaction = true
  · simp only [h, Bool.not_true, Bool.false_eq_true, if_false, if_true]
    rfl
  · simp only [h, Bool.not_false, if_true]
    exact hreach

theorem perform_rollback_eq :
    (onConnection Connection.rollbackUnlessInTransaction).perform ch =
      (.ok (), ch.hearAll ch.connection.rollbackCalls) := by
  have hreach := perform_reach_eq ch .rollback
  rw [perform_onConnection, Connection.rollbackUnlessInTransaction, perform_bind, perform_get]
  unfold Connection.rollbackCalls
  by_cases h : ch.connection.inTransaction = true
  · simp only [h, Bool.not_true, Bool.false_eq_true, if_false, if_true]
    rfl
  · have hrollback : Connection.rollback.perform ch.connection =
        ((ch.connection.driver.refusal? .rollback).elim (.ok ()) (.error <| .fault ·),
          ch.connection.hearAll [.rollback]) := by
      rw [Connection.rollback, Connection.perform_onDriver, Driver.perform_reach_eq]
      rfl
    simp only [h, Bool.not_false, if_true, perform_tryCatch, hrollback]
    cases ch.connection.driver.refusal? .rollback <;> rfl

theorem perform_count_eq :
    (onConnection Connection.countCall).perform ch = (.ok (), ch.counted) := rfl

/-- The refusal to close the cursor, if one is open. -/
def closeRefusal? : Option Fault :=
  if ch.statement.cursor.isSome then ch.connection.driver.refusal? .closeCursor else none

theorem perform_close_eq :
    close.perform ch =
      (ch.closeRefusal?.elim (.ok ()) (.error <| .fault ·), (ch.hearAll ch.closing).shut) := by
  obtain ⟨c, s⟩ := ch
  cases hcursor : s.cursor with
  | none =>
      rw [perform_close_of_none hcursor]
      cases s
      simp_all [closing, closeRefusal?, hearAll, Connection.hearAll, shut]
  | some answer =>
      have hreach := perform_reach_eq ⟨c, s⟩ .closeCursor
      simp only [close, perform_bind, perform_get, hcursor, Option.isSome_some, if_true,
        perform_tryFinally, perform_change, hreach, closing, closeRefusal?]
      rfl

end Primitives

/-! ## Sending -/

section Heard

variable {ch ch' ch'' : Channel} {calls more : List Call}

theorem Heard.rest (ch : Channel) : ch.Heard [] ch := ⟨.rest _, rfl, rfl⟩

theorem Heard.trans (h : ch.Heard calls ch') (h' : ch'.Heard more ch'') :
    ch.Heard (calls ++ more) ch'' :=
  ⟨h.connection.trans h'.connection, h'.sql_eq.trans h.sql_eq,
    h'.operation_eq.trans h.operation_eq⟩

theorem heard_hearAll (ch : Channel) (calls : List Call) : ch.Heard calls (ch.hearAll calls) :=
  ⟨⟨rfl, rfl, rfl⟩, rfl, rfl⟩

theorem Heard.rollbackCalls_eq (h : ch.Heard calls ch') :
    ch'.connection.rollbackCalls = ch.connection.rollbackCalls := by
  rw [Connection.rollbackCalls, Connection.rollbackCalls, h.connection.inTransaction_eq]

theorem Heard.commitCalls_eq (h : ch.Heard calls ch') :
    ch'.connection.commitCalls = ch.connection.commitCalls := by
  rw [Connection.commitCalls, Connection.commitCalls, h.connection.inTransaction_eq]

end Heard

/-- The refusal of a new cursor, where the old one is closed. -/
def openRefusal? : Option Fault :=
  (ch.hearAll ch.closing).connection.driver.refusal? .openCursor

section FirstCursor

variable {c : Connection} {s : Statement} (hcursor : s.cursor = none)

include hcursor

/-- The first cursor of a statement is opened without closing another one. -/
theorem opening_of_none : opening ⟨c, s⟩ = [.openCursor] := by
  simp [opening, closing, hcursor]

theorem openRefusal?_of_none : openRefusal? ⟨c, s⟩ = c.driver.waiting? .openCursor := by
  simp [openRefusal?, closing, hcursor, hearAll, Connection.hearAll, Driver.refusal?,
    Call.isStatement, Call.point?]

end FirstCursor

/-- The driver at the moment when a call is sent through a new cursor. -/
def ready : Driver := ch.connection.driver.hearAll ch.opening

/-- Opening a cursor uses no answer up. -/
theorem nextResponse_ready : ch.ready.nextResponse = ch.connection.driver.nextResponse := by
  have hsilent : ∀ call ∈ ch.opening, call.isStatement = false := fun call hcall =>
    Call.isStatement_of_handlesCursor (ch.handlesCursor_opening call hcall)
  rw [Driver.nextResponse, ready, Driver.responses_hearAll _ hsilent, Driver.nextResponse]

/-- The channel with a new cursor. -/
def opened : Channel :=
  ((ch.hearAll ch.closing).shut.hearAll [.openCursor]).holding freshCursor

theorem driver_opened : ch.opened.connection.driver = ch.ready :=
  (Driver.hearAll_append _ _ _).symm

theorem heard_opened : ch.Heard ch.opening ch.opened := ⟨⟨rfl, rfl, ch.driver_opened⟩, rfl, rfl⟩

section Transmission

variable {ch} {call : Call} {f : Fault}

theorem perform_transmit_of_unclosed (hclose : ch.closeRefusal? = some f) (call : Call) :
    (transmit call).perform ch = (.error (.fault f), (ch.hearAll ch.closing).shut) := by
  have hclosed := perform_close_eq ch
  rw [hclose, Option.elim_some] at hclosed
  exact perform_bind_error hclosed

variable (hclose : ch.closeRefusal? = none)

include hclose

theorem perform_closed : close.perform ch = (.ok (), (ch.hearAll ch.closing).shut) := by
  rw [perform_close_eq, hclose, Option.elim_none]

theorem perform_transmit_of_unopened (hopen : ch.openRefusal? = some f) (call : Call) :
    (transmit call).perform ch =
      (.error (.fault f), (ch.hearAll ch.closing).shut.hearAll [.openCursor]) := by
  have hreach := perform_reach_eq (ch.hearAll ch.closing).shut .openCursor
  have hrefused : (ch.hearAll ch.closing).shut.connection.driver.refusal?
      FailurePoint.openCursor.call = some f := hopen
  rw [hrefused, Option.elim_some] at hreach
  rw [transmit, perform_bind_ok (perform_closed hclose)]
  exact perform_bind_error hreach

variable (hopen : ch.openRefusal? = none)

include hopen

/-- What stands behind the opening of a cursor is run on the new one. -/
theorem perform_opening {α : Type} (a : Action Channel α) :
    (close >>= fun _ => onDriver (Driver.reach .openCursor) >>= fun _ =>
      change (fun s => { s with cursor := some freshCursor }) >>= fun _ => a).perform ch =
        a.perform ch.opened := by
  have hreach := perform_reach_eq (ch.hearAll ch.closing).shut .openCursor
  have hnone : (ch.hearAll ch.closing).shut.connection.driver.refusal?
      FailurePoint.openCursor.call = none := hopen
  rw [hnone, Option.elim_none] at hreach
  rw [perform_bind_ok (perform_closed hclose), perform_bind_ok hreach,
    perform_bind_ok (perform_change _ _)]
  rfl

theorem perform_transmit_of_refused (hcall : call.isStatement = true)
    (hfault : ch.ready.nextResponse.fault = some f) :
    (transmit call).perform ch = (.error (ch.statement.failedBy f),
      ((ch.opened.hearAll [call]).hearAll ch.connection.rollbackCalls).counted) := by
  have hsend := perform_send_eq ch.opened hcall
  rw [driver_opened, hfault, Option.elim_some] at hsend
  have hundo := perform_rollback_eq (ch.opened.hearAll [call])
  rw [transmit, perform_opening hclose hopen]
  simp only [perform_bind, perform_get, perform_tryFinally, perform_tryCatch, hsend, hundo,
    perform_count_eq, perform_throw]
  rfl

theorem perform_transmit_of_answered (hcall : call.isStatement = true)
    (hfault : ch.ready.nextResponse.fault = none) :
    (transmit call).perform ch = (.ok ch.ready.nextResponse,
      ((ch.opened.hearAll [call]).holding ch.ready.nextResponse).counted) := by
  have hsend := perform_send_eq ch.opened hcall
  rw [driver_opened, hfault, Option.elim_none] at hsend
  rw [transmit, perform_opening hclose hopen]
  simp only [perform_bind, perform_get, perform_tryFinally, perform_tryCatch, hsend,
    perform_count_eq, perform_change, perform_earlyReturn]
  rfl

end Transmission

/-- How sending a call through a new cursor ends: with which calls and which result, and with an open
cursor or none. -/
inductive Transmission (call : Call) : List Call → Except Failure Response → Bool → Prop
  /-- The old cursor is given up, although the driver refuses to close it. -/
  | unclosed {f : Fault} (hopen : ch.statement.cursor.isSome = true) :
      Transmission call [.closeCursor] (.error (.fault f)) false
  | unopened {f : Fault} (hopen : ch.openRefusal? = some f) :
      Transmission call ch.opening (.error (.fault f)) false
  | refused {f : Fault} (hopen : ch.openRefusal? = none)
      (hf : ch.ready.nextResponse.fault = some f) :
      Transmission call (ch.opening ++ call :: ch.connection.rollbackCalls)
        (.error (ch.statement.failedBy f)) true
  | answered (hopen : ch.openRefusal? = none) (hf : ch.ready.nextResponse.fault = none) :
      Transmission call (ch.opening ++ [call]) (.ok ch.ready.nextResponse) true

theorem transmit_cases {call : Call} (hcall : call.isStatement = true) :
    ∃ calls r ch', (transmit call).perform ch = (r, ch') ∧ ch.Heard calls ch' ∧
      ch.Transmission call calls r ch'.statement.cursor.isSome := by
  cases hclose : ch.closeRefusal? with
  | some f =>
      have hopen : ch.statement.cursor.isSome = true := by
        apply Decidable.byContradiction
        intro hnone
        simp [closeRefusal?, hnone] at hclose
      have hclosing : ch.closing = [.closeCursor] := if_pos hopen
      exact ⟨ch.closing, _, _, perform_transmit_of_unclosed hclose call,
        ⟨⟨rfl, rfl, rfl⟩, rfl, rfl⟩, hclosing ▸ .unclosed hopen⟩
  | none =>
      cases hopen : ch.openRefusal? with
      | some f =>
          exact ⟨ch.opening, _, _, perform_transmit_of_unopened hclose hopen call,
            ⟨⟨rfl, rfl, ch.driver_opened⟩, rfl, rfl⟩, .unopened hopen⟩
      | none =>
          have hheard := ch.heard_opened
          cases hfault : ch.ready.nextResponse.fault with
          | some f =>
              refine ⟨_, _, _, perform_transmit_of_refused hclose hopen hcall hfault, ?_,
                .refused hopen hfault⟩
              exact hheard.trans ((heard_hearAll _ [call]).trans ⟨⟨rfl, rfl, rfl⟩, rfl, rfl⟩)
          | none =>
              exact ⟨_, _, _, perform_transmit_of_answered hclose hopen hcall hfault,
                hheard.trans ⟨⟨rfl, rfl, rfl⟩, rfl, rfl⟩, .answered hopen hfault⟩

/-- Through the first cursor of a statement a call is handed over, unless the driver opens none. Behind
it there may be a rollback. -/
theorem trace_transmit_of_none {c : Connection} {s : Statement} (hcursor : s.cursor = none)
    {call : Call} (hcall : call.isStatement = true) :
    ∃ behind, (behind = [] ∨ behind = c.rollbackCalls) ∧
      ((transmit call).perform ⟨c, s⟩).2.connection.driver.trace = c.driver.trace ++ .openCursor ::
        if (c.driver.waiting? .openCursor).isSome then [] else call :: behind := by
  obtain ⟨calls, r, ch', hrun, hheard, hsent⟩ := transmit_cases ⟨c, s⟩ hcall
  rw [hrun, hheard.connection.driver_eq, Driver.trace_hearAll, ← openRefusal?_of_none hcursor]
  generalize ch'.statement.cursor.isSome = isOpen at hsent
  cases hsent with
  | unclosed hopen => simp [hcursor] at hopen
  | unopened hopen => exact ⟨[], .inl rfl, by simp [opening_of_none hcursor, hopen]⟩
  | refused hopen => exact ⟨c.rollbackCalls, .inr rfl, by simp [opening_of_none hcursor, hopen]⟩
  | answered hopen => exact ⟨[], .inl rfl, by simp [opening_of_none hcursor, hopen]⟩

/-- A call that succeeds brings the driver's next answer. -/
theorem answer_of_transmit {call : Call} (hcall : call.isStatement = true) {answer : Response}
    {ch' : Channel} (h : (transmit call).perform ch = (.ok answer, ch')) :
    answer = ch.connection.driver.nextResponse := by
  obtain ⟨calls, r, ch'', hrun, -, hsent⟩ := transmit_cases ch hcall
  rw [h] at hrun
  obtain ⟨rfl, -⟩ := Prod.mk.inj hrun
  generalize ch''.statement.cursor.isSome = isOpen at hsent
  cases hsent with
  | answered => exact ch.nextResponse_ready

end Channel

end RelationalMapper
