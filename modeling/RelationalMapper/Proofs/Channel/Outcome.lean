import RelationalMapper.Channel.Keys
import RelationalMapper.Proofs.Action

/-! # What statements leave on a driver that serves them

As long as no fault waits where a statement calls and the answers hold none, each operation adds its
own calls to the trace and takes its answers off the queue. -/

namespace RelationalMapper

/-! ## Calls and answers -/

/-- The driver after some calls that took this many answers. -/
def Driver.after (d : Driver) (calls : List Call) (answers : Nat) : Driver :=
  { d with trace := d.trace ++ calls, responses := d.responses.drop answers }

/-- The connection after some calls that took this many answers. -/
def Connection.after (c : Connection) (calls : List Call) (answers sent : Nat) : Connection :=
  { c with driver := c.driver.after calls answers, calls := c.calls + sent }

/-- The call by which a connection commits after a statement. -/
def Connection.commitCalls (c : Connection) : List Call :=
  if c.inTransaction then [] else [.commit]

/-- The call by which a connection undoes a statement that failed. -/
def Connection.rollbackCalls (c : Connection) : List Call :=
  if c.inTransaction then [] else [.rollback]

namespace Driver

/-- No fault waits where a statement that is served calls. -/
structure Calm (d : Driver) : Prop where
  openCursor : d.waiting? .openCursor = none
  closeCursor : d.waiting? .closeCursor = none
  commit : d.waiting? .commit = none

variable {d : Driver}

theorem waiting?_of_faults (h : d.faults = []) (point : FailurePoint) : d.waiting? point = none := by
  rw [waiting?, h]
  rfl

theorem Calm.of_faults (h : d.faults = []) : d.Calm :=
  ⟨waiting?_of_faults h _, waiting?_of_faults h _, waiting?_of_faults h _⟩

theorem Calm.after (h : d.Calm) (calls : List Call) (answers : Nat) : (d.after calls answers).Calm :=
  ⟨h.openCursor, h.closeCursor, h.commit⟩

@[simp] theorem faults_after (d : Driver) (calls : List Call) (answers : Nat) :
    (d.after calls answers).faults = d.faults := rfl

@[simp] theorem trace_after (d : Driver) (calls : List Call) (answers : Nat) :
    (d.after calls answers).trace = d.trace ++ calls := rfl

@[simp] theorem responses_after (d : Driver) (calls : List Call) (answers : Nat) :
    (d.after calls answers).responses = d.responses.drop answers := rfl

@[simp] theorem after_after (d : Driver) (first second : List Call) (n k : Nat) :
    (d.after first n).after second k = d.after (first ++ second) (n + k) := by
  simp [after]

theorem perform_reach {point : FailurePoint} (h : d.waiting? point = none) :
    (reach point).perform d = (.ok (), d.after [point.call] 0) := by
  have hrecorded : (d.record point.call).waiting? point = none := h
  rw [reach, Action.perform_ofFunction]
  simp only [hrecorded]
  rfl

/-- What holds of all answers, and of the one that is given when nothing more was told, holds of the
next one. -/
theorem nextResponse_of_forall {P : Response → Prop} (hrest : P {})
    (h : ∀ answer ∈ d.responses, P answer) : P d.nextResponse := by
  unfold nextResponse
  cases hresponses : d.responses with
  | nil => exact hrest
  | cons answer rest => exact h answer (hresponses ▸ List.mem_cons_self)

theorem perform_send (h : d.nextResponse.fault = none) (call : Call) :
    (send call).perform d = (.ok d.nextResponse, d.after [call] 1) := by
  simp [send, h, record, after]

theorem perform_fetch {answer : Response} (h : answer.fetchFault = none) (call : Call) :
    (fetch call answer).perform d = (.ok (), d.after [call] 0) := by
  simp [fetch, h, record, after]

end Driver

namespace Connection

variable {c : Connection}

@[simp] theorem driver_after (c : Connection) (calls : List Call) (answers sent : Nat) :
    (c.after calls answers sent).driver = c.driver.after calls answers := rfl

@[simp] theorem dialect_after (c : Connection) (calls : List Call) (answers sent : Nat) :
    (c.after calls answers sent).dialect = c.dialect := rfl

@[simp] theorem inTransaction_after (c : Connection) (calls : List Call) (answers sent : Nat) :
    (c.after calls answers sent).inTransaction = c.inTransaction := rfl

@[simp] theorem commitCalls_after (c : Connection) (calls : List Call) (answers sent : Nat) :
    (c.after calls answers sent).commitCalls = c.commitCalls := rfl

@[simp] theorem after_after (c : Connection) (first second : List Call) (n k i j : Nat) :
    (c.after first n i).after second k j = c.after (first ++ second) (n + k) (i + j) := by
  simp [after, Nat.add_assoc]

@[simp] theorem after_nil (c : Connection) : c.after [] 0 0 = c := by
  simp [after, Driver.after]

theorem perform_onDriver {α : Type} (a : Action Driver α) (c : Connection) :
    (onDriver a).perform c
      = ((a.perform c.driver).1, { c with driver := (a.perform c.driver).2 }) := rfl

theorem perform_reach {point : FailurePoint} (h : c.driver.waiting? point = none) :
    (onDriver (Driver.reach point)).perform c = (.ok (), c.after [point.call] 0 0) := by
  simp [perform_onDriver, Driver.perform_reach h, after]

theorem perform_commitUnlessInTransaction (h : c.driver.waiting? .commit = none) :
    commitUnlessInTransaction.perform c = (.ok (), c.after c.commitCalls 0 0) := by
  unfold commitUnlessInTransaction commitCalls
  by_cases ht : c.inTransaction = true
  · simp [Action.perform_bind, ht]
  · simp [Action.perform_bind, ht, commit, perform_reach h, FailurePoint.call]

theorem perform_countCall : countCall.perform c = (.ok (), c.after [] 0 1) := by
  simp [countCall, after, Driver.after]

end Connection

/-! ## Statements -/

theorem Statement.unbound_map_some (n : Nat) (values : List Value) :
    unbound n (values.map some) = [] := by
  induction values generalizing n with
  | nil => rfl
  | cons v values ih => simp [unbound, ih]

theorem Statement.parameters_bindAll (s : Statement) (values : List Value) :
    (s.bindAll values).parameters = .ok values := by
  simp [parameters, bindAll, unbound_map_some]

namespace Channel

variable {c : Connection} {s : Statement}

theorem perform_onConnection {α : Type} (a : Action Connection α) (ch : Channel) :
    (onConnection a).perform ch
      = ((a.perform ch.connection).1, { ch with connection := (a.perform ch.connection).2 }) := rfl

theorem perform_onDriver {α : Type} (a : Action Driver α) (ch : Channel) :
    (onDriver a).perform ch = ((a.perform ch.connection.driver).1,
      { ch with connection := { ch.connection with
        driver := (a.perform ch.connection.driver).2 } }) := rfl

theorem perform_change (f : Statement → Statement) (ch : Channel) :
    (change f).perform ch = (.ok (), { ch with statement := f ch.statement }) := rfl

theorem perform_onConnection_commit (h : c.driver.waiting? .commit = none) :
    (onConnection Connection.commitUnlessInTransaction).perform ⟨c, s⟩ =
      (.ok (), ⟨c.after c.commitCalls 0 0, s⟩) := by
  rw [perform_onConnection, Connection.perform_commitUnlessInTransaction h]

/-- Nothing is closed before a cursor was opened. -/
theorem perform_close_of_none (h : s.cursor = none) : close.perform ⟨c, s⟩ = (.ok (), ⟨c, s⟩) := by
  simp [close, Action.perform_bind, h]

theorem perform_close {answer : Response} (hclose : c.driver.waiting? .closeCursor = none)
    (h : s.cursor = some answer) :
    close.perform ⟨c, s⟩ =
      (.ok (), ⟨c.after [.closeCursor] 0 0, { s with cursor := none }⟩) := by
  simp [close, Action.perform_bind, h, Action.perform_tryFinally, perform_onDriver,
    Driver.perform_reach hclose, perform_change, Connection.after, FailurePoint.call]

/-- A call goes through a new cursor, which keeps its answer. -/
theorem perform_transmit {answer : Response} (hopen : c.driver.waiting? .openCursor = none)
    (hcursor : s.cursor = none) (hanswer : c.driver.nextResponse = answer)
    (hfault : answer.fault = none) (call : Call) :
    (transmit call).perform ⟨c, s⟩ = (.ok answer,
      ⟨c.after [.openCursor, call] 1 1, { s with cursor := some answer }⟩) := by
  have hopened : (c.driver.after [.openCursor] 0).nextResponse = answer := hanswer
  have hsend := Driver.perform_send (d := c.driver.after [.openCursor] 0) (by rw [hopened, hfault])
    call
  rw [hopened] at hsend
  simp [transmit, Action.perform_bind, perform_close_of_none hcursor, perform_onDriver,
    Driver.perform_reach hopen, FailurePoint.call, Action.perform_tryFinally,
    Action.perform_tryCatch, perform_change, perform_onConnection, hsend,
    Connection.perform_countCall, Connection.after]

/-- The call by which a statement reaches its driver. -/
def executeCall (c : Connection) (s : Statement) (params : List Value) : Call :=
  .execute (c.dialect.standardize s.sql)
    (some (params.map (·.bound c.dialect.bindingStyle)))

/-- What is bound already does not matter to a call. -/
@[simp] theorem executeCall_bindAll (c : Connection) (s : Statement)
    (values params : List Value) :
    executeCall c (s.bindAll values) params = executeCall c s params := rfl

/-- Bound parameters are sent with the statement. -/
theorem perform_executeOnce_eq {params : List Value} (hparams : s.parameters = .ok params) :
    executeOnce.perform ⟨c, s⟩ = (transmit (executeCall c s params)).perform ⟨c, s⟩ := by
  simp [executeOnce, Action.perform_bind, hparams, driverText, bound, executeCall]

theorem perform_executeOnce {answer : Response} {params : List Value}
    (hopen : c.driver.waiting? .openCursor = none) (hcursor : s.cursor = none)
    (hparams : s.parameters = .ok params) (hanswer : c.driver.nextResponse = answer)
    (hfault : answer.fault = none) :
    executeOnce.perform ⟨c, s⟩ = (.ok answer,
      ⟨c.after [.openCursor, executeCall c s params] 1 1, { s with cursor := some answer }⟩) := by
  rw [perform_executeOnce_eq hparams]
  exact perform_transmit hopen hcursor hanswer hfault (executeCall c s params)

/-- A statement that changes rows is committed behind it. -/
theorem perform_executeUpdate {answer : Response} {params : List Value} {n : Int}
    (hcalm : c.driver.Calm) (hcursor : s.cursor = none)
    (hparams : s.parameters = .ok params) (hanswer : c.driver.nextResponse = answer)
    (hfault : answer.fault = none) (hcount : answer.rowCount = some n) :
    executeUpdate.perform ⟨c, s⟩ = (.ok (max n 0),
      ⟨c.after (.openCursor :: executeCall c s params :: c.commitCalls) 1 1,
        { s with cursor := some answer, rowCount := max n 0 }⟩) := by
  have honce := perform_executeOnce hcalm.openCursor hcursor hparams hanswer hfault
  have hcommit := perform_onConnection_commit
    (c := c.after [.openCursor, executeCall c s params] 1 1)
    (s := { s with cursor := some answer, rowCount := max n 0 }) hcalm.commit
  simp only [executeUpdate, Action.perform_bind, honce, hcount, perform_change]
  simp [hcommit]

/-- The rows that an answer gives. -/
def rowsIn (answer : Response) : List Row := answer.columns.elim [] (rowsOf answer)

/-- The call that fetches these rows. -/
def fetchCalls (answer : Response) : List Call := if answer.columns.isSome then [.fetchAll] else []

theorem perform_fetchRows {answer : Response} (hfetch : answer.fetchFault = none) :
    (fetchRows answer).perform ⟨c, s⟩ =
      (.ok (rowsIn answer), ⟨c.after (fetchCalls answer) 0 0, s⟩) := by
  unfold fetchRows rowsIn fetchCalls
  cases h : answer.columns with
  | none => simp
  | some columns =>
      simp [perform_onDriver, Driver.perform_fetch hfetch, Connection.after, Except.map]

/-- A statement that gives rows back and does not only read is committed behind them. -/
theorem perform_executeQuery {answer : Response} {params : List Value}
    (hcalm : c.driver.Calm) (hcursor : s.cursor = none)
    (hparams : s.parameters = .ok params) (hanswer : c.driver.nextResponse = answer)
    (hfault : answer.fault = none) (hfetch : answer.fetchFault = none)
    (hoperation : s.operation ≠ Statement.reading) :
    executeQuery.perform ⟨c, s⟩ = (.ok (rowsIn answer),
      ⟨c.after (.openCursor :: executeCall c s params :: (fetchCalls answer ++ c.commitCalls)) 1 1,
        { s with cursor := some answer, rowCount := (rowsIn answer).length }⟩) := by
  have honce := perform_executeOnce hcalm.openCursor hcursor hparams hanswer hfault
  have hrows := perform_fetchRows (c := c.after [.openCursor, executeCall c s params] 1 1)
    (s := { s with cursor := some answer }) hfetch
  have hcommit := perform_onConnection_commit
    (c := c.after (.openCursor :: executeCall c s params :: fetchCalls answer) 1 1)
    (s := { s with cursor := some answer, rowCount := (rowsIn answer).length }) hcalm.commit
  simp only [executeQuery, Action.perform_bind, honce, Action.perform_get,
    Action.perform_tryCatch, hrows, perform_change]
  simp [hoperation, hcommit, Except.map]

end Channel

/-! ## Blocks on a statement -/

namespace Connection

/-- A block that ends with an open cursor is followed by closing it. -/
theorem perform_withStatement {ε α : Type} {sql operation : String}
    {block : Action (Channel × ε) α} {c c' : Connection} {s : Statement} {e e' : ε} {a : α}
    {answer : Response} (hclose : c'.driver.waiting? .closeCursor = none)
    (hcursor : s.cursor = some answer) (hblock : block.perform (⟨c, { sql, operation }⟩, e) = (.ok a, (⟨c', s⟩, e'))) :
    (withStatement sql operation block).perform (c, e) =
      (.ok a, (c'.after [.closeCursor] 0 0, e')) := by
  simp [withStatement, Action.perform_tryFinally, hblock, Channel.perform_close hclose hcursor]

/-- The same without anything beside the connection. -/
theorem perform_onStatement {α : Type} {sql operation : String} {block : Action Channel α}
    {c c' : Connection} {s : Statement} {a : α} {answer : Response}
    (hclose : c'.driver.waiting? .closeCursor = none) (hcursor : s.cursor = some answer)
    (hblock : block.perform ⟨c, { sql, operation }⟩ = (.ok a, ⟨c', s⟩)) :
    (onStatement sql operation block).perform c = (.ok a, c'.after [.closeCursor] 0 0) := by
  have hbeside : (block.first : Action (Channel × Unit) α).perform (⟨c, { sql, operation }⟩, ()) =
      (.ok a, (⟨c', s⟩, ())) := by
    simp [hblock]
  have h := perform_withStatement hclose hcursor hbeside
  simp [onStatement, Action.alone, h]

/-- A statement that changes rows is sent through a cursor of its own. -/
theorem perform_execute {c : Connection} {answer : Response} {n : Int} (sql : String)
    (params : List Value) (operation : String) (hcalm : c.driver.Calm)
    (hanswer : c.driver.nextResponse = answer) (hfault : answer.fault = none)
    (hcount : answer.rowCount = some n) :
    (execute sql params operation).perform c = (.ok (max n 0),
      c.after (.openCursor :: .execute (c.dialect.standardize sql)
        (some (params.map (·.bound c.dialect.bindingStyle))) ::
          (c.commitCalls ++ [.closeCursor])) 1 1) := by
  let fresh : Statement := { sql, operation }
  have hupdate := Channel.perform_executeUpdate (s := fresh.bindAll params) hcalm rfl
    (fresh.parameters_bindAll params) hanswer hfault hcount
  have hblock := (Action.perform_bind_ok (Channel.perform_change (·.bindAll params) ⟨c, fresh⟩)
    (f := fun _ => Channel.executeUpdate)).trans hupdate
  rw [Channel.executeCall_bindAll] at hblock
  have hclose : (c.after (.openCursor :: Channel.executeCall c fresh params ::
      c.commitCalls) 1 1).driver.waiting? .closeCursor = none := hcalm.closeCursor
  have hsent := perform_onStatement hclose rfl hblock
  exact hsent.trans (by simp [Channel.executeCall, fresh])

end Connection

end RelationalMapper
