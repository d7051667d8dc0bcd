import RelationalMapper.Proofs.Channel.Transmission
import RelationalMapper.Proofs.Passage

/-! # What the use of a statement does

Whatever a driver answers and wherever it fails, a use of a statement comes to one of a few ends. Each
of them has its calls, its failure, and an open cursor or none. -/

namespace RelationalMapper

open RelationalMapper.Action

namespace Channel

variable (ch : Channel)

/-! ## Uses -/

/-- The call by which rows are fetched, where there are any. -/
def fetching (fetched : Bool) : List Call := if fetched then [.fetchAll] else []

/-- The calls behind a statement that ran. -/
def finishing (reads fetched : Bool) : List Call :=
  fetching fetched ++ if reads then [] else ch.connection.commitCalls

theorem eq_of_mem_finishing {reads fetched : Bool} {call : Call}
    (h : call ∈ ch.finishing reads fetched) : call = .fetchAll ∨ call = .commit := by
  rcases List.mem_append.mp h with hfetch | hcommit
  · cases fetched with
    | false => contradiction
    | true => exact .inl (List.mem_singleton.mp hfetch)
  · cases reads with
    | true => contradiction
    | false => exact .inr (Connection.eq_of_mem_commitCalls hcommit)

/-- The call hands the statement over through a new cursor, and the driver takes it. -/
structure Accepts (call : Call) : Prop where
  text?_eq : call.text? = some ch.driverText
  openRefusal?_eq : ch.openRefusal? = none
  fault_eq : ch.ready.nextResponse.fault = none

/-- What a use of the statement does: its calls, its failure, and whether a cursor is open behind it. A
statement that was run is committed at its end, unless it only reads. -/
inductive Effect (reads : Bool) : List Call → Option Failure → Bool → Prop
  | idle {o : Option Failure} : Effect reads [] o ch.statement.cursor.isSome
  | closed {o : Option Failure} (hopen : ch.statement.cursor.isSome = true) :
      Effect reads [.closeCursor] o false
  | unopened {f : Fault} {o : Option Failure} (hopen : ch.openRefusal? = some f) :
      Effect reads ch.opening o false
  /-- The driver refuses to tell the last key. -/
  | unanswered {f : Fault} (hopen : ch.statement.cursor.isSome = true)
      (hf : ch.connection.driver.nextResponse.fault = some f) :
      Effect reads [.question] (some (ch.statement.failed (.fault f))) true
  | asked {o : Option Failure} (hopen : ch.statement.cursor.isSome = true)
      (hf : ch.connection.driver.nextResponse.fault = none)
      (ho : ∀ f, ch.connection.driver.nextResponse.fetchFault = some f →
        o = some (ch.statement.failed (.fault f))) :
      Effect reads [.question, .fetchOne] o true
  | refused {call : Call} {f : Fault} (htext : call.text? = some ch.driverText)
      (hopen : ch.openRefusal? = none) (hf : ch.ready.nextResponse.fault = some f) :
      Effect reads (ch.opening ++ call :: ch.connection.rollbackCalls)
        (some (ch.statement.failedBy f)) true
  | unfetched {call : Call} {f : Fault} (hcall : ch.Accepts call)
      (hfetch : ch.ready.nextResponse.fetchFault = some f) :
      Effect reads (ch.opening ++ call :: .fetchAll :: ch.connection.rollbackCalls)
        (some (ch.statement.failed (.fault f))) true
  /-- The driver does not say how many rows the statement changed. -/
  | uncounted {call : Call} (hcall : ch.Accepts call)
      (hcount : ch.ready.nextResponse.rowCount = none) :
      Effect reads (ch.opening ++ [call]) (some noRowCount) true
  | done {call : Call} {o : Option Failure} (fetched : Bool) (hcall : ch.Accepts call)
      (hfetch : fetched = true → ch.ready.nextResponse.fetchFault = none) :
      Effect reads (ch.opening ++ call :: ch.finishing reads fetched) o true

/-- Run on the channel, the action has one of these effects. -/
def HasEffect {α : Type} (reads : Bool) (a : Action Channel α) : Prop :=
  ∃ calls, ch.Heard calls (a.perform ch).2 ∧
    ch.Effect reads calls (failureOf (a.perform ch).1) (a.perform ch).2.statement.cursor.isSome

section Effect

variable {ch : Channel} {reads : Bool} {α : Type}

theorem hasEffect_of_perform {a : Action Channel α} {r : Except Failure α} {ch' : Channel}
    (calls : List Call) (hrun : a.perform ch = (r, ch')) (hheard : ch.Heard calls ch')
    (heffect : ch.Effect reads calls (failureOf r) ch'.statement.cursor.isSome) :
    ch.HasEffect reads a := by
  refine ⟨calls, ?_, ?_⟩
  · rwa [hrun]
  · rwa [hrun]

theorem HasEffect.forget {a : Action Channel α} (h : ch.HasEffect reads a) :
    ch.HasEffect reads a.forget := by
  obtain ⟨calls, hheard, heffect⟩ := h
  rcases hrun : a.perform ch with ⟨r, ch'⟩
  rw [hrun] at hheard heffect
  have hforget : a.forget.perform ch = (r.map fun _ => (), ch') := by
    rw [perform_forget, hrun]
  apply hasEffect_of_perform calls hforget hheard
  cases r with
  | error e => exact heffect
  | ok x => exact heffect

/-- What changes the statement only, or nothing at all. -/
theorem hasEffect_of_idle {a : Action Channel α} {r : Except Failure α} {ch' : Channel}
    (hrun : a.perform ch = (r, ch')) (hconnection : ch'.connection = ch.connection)
    (hsql : ch'.statement.sql = ch.statement.sql)
    (hoperation : ch'.statement.operation = ch.statement.operation)
    (hcursor : ch'.statement.cursor = ch.statement.cursor) : ch.HasEffect reads a := by
  refine hasEffect_of_perform [] hrun ⟨?_, hsql, hoperation⟩ ?_
  · rw [hconnection]
    exact .rest _
  · rw [hcursor]
    exact .idle

theorem hasEffect_close : ch.HasEffect reads close := by
  by_cases hopen : ch.statement.cursor.isSome = true
  · refine hasEffect_of_perform [.closeCursor] (perform_close_eq ch) ?_ (.closed hopen)
    rw [closing, if_pos hopen]
    exact ⟨⟨rfl, rfl, rfl⟩, rfl, rfl⟩
  · have hcursor : ch.statement.cursor = none := by simpa using hopen
    exact hasEffect_of_idle (perform_close_of_none hcursor) rfl rfl rfl rfl

/-- A call that fails has its effect, whatever would come behind it. -/
theorem hasEffect_of_transmission {a : Action Channel α} {call : Call} {e : Failure}
    {ch' : Channel} {calls : List Call} (htext : call.text? = some ch.driverText)
    (hrun : a.perform ch = (.error e, ch')) (hheard : ch.Heard calls ch')
    (hsent : ch.Transmission call calls (.error e) ch'.statement.cursor.isSome) :
    ch.HasEffect reads a := by
  apply hasEffect_of_perform calls hrun hheard
  generalize ch'.statement.cursor.isSome = isOpen at hsent
  cases hsent with
  | unclosed hopen => exact .closed hopen
  | unopened hopen => exact .unopened hopen
  | refused hopen hf => exact .refused htext hopen hf

/-- What is done with an answer comes behind the call that brought it. -/
theorem hasEffect_of_sent {call : Call} (htext : call.text? = some ch.driverText)
    {f : Response → Action Channel α}
    (hf : ∀ ch', ch.Heard (ch.opening ++ [call]) ch' → ch.Accepts call →
      ch'.statement.cursor.isSome = true →
      ∃ r ch'' more, (f ch.ready.nextResponse).perform ch' = (r, ch'') ∧ ch'.Heard more ch'' ∧
        ch.Effect reads (ch.opening ++ call :: more) (failureOf r) ch''.statement.cursor.isSome) :
    ch.HasEffect reads (transmit call >>= f) := by
  obtain ⟨calls, r, ch', hrun, hheard, hsent⟩ :=
    transmit_cases ch (Call.isStatement_of_text? htext)
  cases r with
  | error e =>
      exact hasEffect_of_transmission htext (perform_bind_error hrun) hheard hsent
  | ok answer =>
      generalize hopen : ch'.statement.cursor.isSome = isOpen at hsent
      cases hsent with
      | answered hnew hfault =>
          obtain ⟨r, ch'', more, hrest, hmore, heffect⟩ :=
            hf ch' hheard ⟨htext, hnew, hfault⟩ hopen
          refine hasEffect_of_perform (ch.opening ++ call :: more) ?_ ?_ heffect
          · rw [perform_bind_ok hrun, hrest]
          · have hboth := hheard.trans hmore
            rwa [List.append_assoc] at hboth

/-- Parameters that are not bound without gaps are found before anything is sent. -/
theorem hasEffect_executeOnce {f : Response → Action Channel α}
    (hf : ∀ call : Call, call.text? = some ch.driverText → ch.HasEffect reads (transmit call >>= f)) :
    ch.HasEffect reads (executeOnce >>= f) := by
  cases hparams : ch.statement.parameters with
  | error e =>
      have hrun : (executeOnce >>= f).perform ch = (.error e, ch) := by
        simp [executeOnce, perform_bind, hparams]
      exact hasEffect_of_idle hrun rfl rfl rfl rfl
  | ok params =>
      have hcall := hf (.execute ch.driverText (some (ch.bound params))) rfl
      have heq : (executeOnce >>= f).perform ch =
          (transmit (.execute ch.driverText (some (ch.bound params))) >>= f).perform ch := by
        simp [executeOnce, perform_bind, hparams]
      rw [HasEffect, heq]
      exact hcall

/-- The commit behind a statement comes last. -/
theorem perform_committed (ch : Channel) (x : α) :
    (onConnection Connection.commitUnlessInTransaction >>= fun _ => pure x).perform ch =
      (ch.commitRefusal?.elim (.ok x) (.error <| .fault ·),
        ch.hearAll ch.connection.commitCalls) := by
  rw [perform_bind, perform_commit_eq]
  cases ch.commitRefusal? <;> rfl

/-- A statement that was run is committed when its rows are counted. -/
theorem hasEffect_counted {call : Call} {ch' : Channel} (fetched : Bool) (hcall : ch.Accepts call)
    (hheard : ch.Heard (ch.opening ++ call :: fetching fetched) ch')
    (hfetch : fetched = true → ch.ready.nextResponse.fetchFault = none)
    (hopen : ch'.statement.cursor.isSome = true) (f : Statement → Statement)
    (hf : ∀ s, (f s).sql = s.sql ∧ (f s).operation = s.operation ∧ (f s).cursor = s.cursor) (x : α) :
    ∃ r ch'' more,
      (change f >>= fun _ => onConnection Connection.commitUnlessInTransaction >>= fun _ =>
        pure x).perform ch' = (r, ch'') ∧ ch'.Heard more ch'' ∧
      ch.Effect false (ch.opening ++ call :: (fetching fetched ++ more)) (failureOf r)
        ch''.statement.cursor.isSome := by
  let last : Channel := { ch' with statement := f ch'.statement }
  obtain ⟨hsql, hoperation, hcursor⟩ := hf ch'.statement
  refine ⟨_, last.hearAll ch'.connection.commitCalls, ch'.connection.commitCalls,
    (perform_bind_ok (perform_change f ch')).trans (perform_committed last x),
    ⟨⟨rfl, rfl, rfl⟩, hsql, hoperation⟩, ?_⟩
  have hlast : (last.hearAll ch'.connection.commitCalls).statement.cursor.isSome = true := by
    rw [← hopen]
    exact congrArg Option.isSome hcursor
  rw [hlast, hheard.commitCalls_eq]
  exact .done fetched hcall hfetch

theorem hasEffect_executeUpdate : ch.HasEffect false executeUpdate := by
  apply hasEffect_executeOnce
  intro call htext
  apply hasEffect_of_sent htext
  intro ch' hheard hcall hopen
  cases hcount : ch.ready.nextResponse.rowCount with
  | none =>
      refine ⟨.error noRowCount, ch', [], rfl, .rest _, ?_⟩
      rw [hopen]
      exact .uncounted hcall hcount
  | some n =>
      apply hasEffect_counted false hcall hheard (fun h => Bool.noConfusion h) hopen
      exact fun _ => ⟨rfl, rfl, rfl⟩

/-- An empty queue is not sent. -/
theorem hasEffect_executeBatch : ch.HasEffect false executeBatch := by
  by_cases hbatch : ch.statement.batch = []
  · have hrun : executeBatch.perform ch = (.ok 0, ch) := by
      simp [executeBatch, perform_bind, hbatch]
    exact hasEffect_of_idle hrun rfl rfl rfl rfl
  · have hsent : ch.HasEffect false
        (transmit (.executeMany ch.driverText (ch.statement.batch.map ch.bound)) >>= fun answer =>
          change (fun s => { s with
            batch := [], rowCount := batchCount answer ch.statement.batch.length }) >>= fun _ =>
          onConnection Connection.commitUnlessInTransaction >>= fun _ =>
          pure (batchCount answer ch.statement.batch.length)) := by
      apply hasEffect_of_sent rfl
      intro ch' hheard hcall hopen
      apply hasEffect_counted false hcall hheard (fun h => Bool.noConfusion h) hopen
      exact fun _ => ⟨rfl, rfl, rfl⟩
    have heq : executeBatch.perform ch = _ := perform_bind_ok (perform_get ch)
    simp only [hbatch, if_false] at heq
    rw [HasEffect, heq]
    exact hsent

theorem perform_fetchRows_eq (ch : Channel) (answer : Response) :
    (fetchRows answer).perform ch =
      (if answer.columns.isSome then answer.fetchFault.elim (.ok (rowsIn answer)) (.error <| .fault ·)
        else .ok [], ch.hearAll (fetching answer.columns.isSome)) := by
  unfold fetchRows rowsIn fetching
  cases answer.columns with
  | none => rfl
  | some columns =>
      rw [perform_bind, perform_fetch_eq ch (.inl rfl)]
      cases answer.fetchFault <;> rfl

/-- The rows of an answer are fetched, if it has any, and a refusal is undone like one of the
statement. -/
theorem perform_fetchRows_cases (ch : Channel) (answer : Response) (s : Statement) :
    let fetched := (tryCatch (fetchRows answer) fun cause => do
      onConnection Connection.rollbackUnlessInTransaction
      throw (s.failed cause)).perform ch
    (∃ f, answer.fetchFault = some f ∧ fetched =
        (.error (s.failed (.fault f)), ch.hearAll (.fetchAll :: ch.connection.rollbackCalls))) ∨
      (answer.columns.isSome = true → answer.fetchFault = none) ∧
        ∃ rows, fetched = (.ok rows, ch.hearAll (fetching answer.columns.isSome)) := by
  have hrows := perform_fetchRows_eq ch answer
  cases hcolumns : answer.columns.isSome with
  | false =>
      rw [hcolumns, if_neg Bool.false_ne_true] at hrows
      exact .inr ⟨fun h => Bool.noConfusion h, [], by rw [perform_tryCatch, hrows]⟩
  | true =>
      rw [hcolumns, if_pos rfl] at hrows
      cases hfetch : answer.fetchFault with
      | none =>
          rw [hfetch, Option.elim_none] at hrows
          exact .inr ⟨fun _ => rfl, rowsIn answer, by rw [perform_tryCatch, hrows]⟩
      | some f =>
          rw [hfetch, Option.elim_some] at hrows
          have hundo := perform_rollback_eq (ch.hearAll [.fetchAll])
          refine .inl ⟨f, rfl, ?_⟩
          simp only [perform_bind, perform_tryCatch, hrows, fetching, hundo, perform_throw, if_true]
          rfl

/-- What only reads is not committed. -/
theorem hasEffect_read {call : Call} (ch' : Channel) (fetched : Bool) (hcall : ch.Accepts call)
    (hfetch : fetched = true → ch.ready.nextResponse.fetchFault = none)
    (hopen : ch'.statement.cursor.isSome = true) (f : Statement → Statement)
    (hf : ∀ s, (f s).sql = s.sql ∧ (f s).operation = s.operation ∧ (f s).cursor = s.cursor) (x : α) :
    ∃ r ch'' more,
      (change f >>= fun _ => pure x).perform ch' = (r, ch'') ∧ ch'.Heard more ch'' ∧
      ch.Effect true (ch.opening ++ call :: (fetching fetched ++ more)) (failureOf r)
        ch''.statement.cursor.isSome := by
  obtain ⟨hsql, hoperation, hcursor⟩ := hf ch'.statement
  refine ⟨.ok x, { ch' with statement := f ch'.statement }, [],
    perform_bind_ok (perform_change f ch'), ⟨⟨rfl, rfl, rfl⟩, hsql, hoperation⟩, ?_⟩
  have hlast : ({ ch' with statement := f ch'.statement } : Channel).statement.cursor.isSome =
      true := by
    rw [← hopen]
    exact congrArg Option.isSome hcursor
  rw [hlast]
  exact .done fetched hcall hfetch

theorem hasEffect_executeQuery :
    ch.HasEffect (decide (ch.statement.operation = Statement.reading)) executeQuery := by
  apply hasEffect_executeOnce
  intro call htext
  apply hasEffect_of_sent htext
  intro ch' hheard hcall hopen
  rw [perform_bind_ok (perform_get ch')]
  rcases perform_fetchRows_cases ch' ch.ready.nextResponse ch'.statement with
    ⟨f, hfetch, hrun⟩ | ⟨hfetch, rows, hrun⟩
  · have hfailed : ch'.statement.failed (.fault f) = ch.statement.failed (.fault f) := by
      rw [Statement.failed, Statement.failed, hheard.sql_eq, hheard.operation_eq]
    have hlast : (ch'.hearAll (.fetchAll :: ch'.connection.rollbackCalls)).statement.cursor.isSome =
        true := hopen
    refine ⟨_, _, .fetchAll :: ch'.connection.rollbackCalls, perform_bind_error hrun,
      heard_hearAll _ _, ?_⟩
    rw [hlast, hheard.rollbackCalls_eq, hfailed]
    exact .unfetched hcall hfetch
  · let counting : Statement → Statement := fun s => { s with rowCount := rows.length }
    have hcounting : ∀ s, (counting s).sql = s.sql ∧ (counting s).operation = s.operation ∧
        (counting s).cursor = s.cursor := fun _ => ⟨rfl, rfl, rfl⟩
    have hfetched :=
      hheard.trans (heard_hearAll ch' (fetching ch.ready.nextResponse.columns.isSome))
    rw [List.append_assoc] at hfetched
    rw [← hheard.operation_eq]
    by_cases hreads : ch'.statement.operation = Statement.reading
    · obtain ⟨r, ch'', more, hrest, hmore, heffect⟩ :=
        hasEffect_read (ch'.hearAll _) _ hcall hfetch hopen counting hcounting rows
      refine ⟨r, ch'', fetching ch.ready.nextResponse.columns.isSome ++ more, ?_,
        (heard_hearAll ch' _).trans hmore, ?_⟩
      · rw [perform_bind_ok hrun, if_neg fun h => h hreads]
        exact hrest
      · rw [decide_eq_true hreads]
        exact heffect
    · obtain ⟨r, ch'', more, hrest, hmore, heffect⟩ :=
        hasEffect_counted _ hcall hfetched hfetch hopen counting hcounting rows
      refine ⟨r, ch'', fetching ch.ready.nextResponse.columns.isSome ++ more, ?_,
        (heard_hearAll ch' _).trans hmore, ?_⟩
      · rw [perform_bind_ok hrun, if_pos hreads]
        exact hrest
      · rw [decide_eq_false hreads]
        exact heffect

/-- The last key is asked for, and then fetched, unless the driver refuses the question. -/
theorem perform_lastKey_cases (ch : Channel) :
    (∃ f, ch.connection.driver.nextResponse.fault = some f ∧
      Keys.lastKey.perform ch = (.error (.fault f), ch.hearAll [.question])) ∨
    ch.connection.driver.nextResponse.fault = none ∧
      ∃ r, (∀ f, ch.connection.driver.nextResponse.fetchFault = some f → r = .error (.fault f)) ∧
        Keys.lastKey.perform ch =
          (r, (ch.holding ch.connection.driver.nextResponse).hearAll [.question, .fetchOne]) := by
  have hsend : (onDriver (Driver.send .question)).perform ch = _ := perform_send_eq ch rfl
  cases hfault : ch.connection.driver.nextResponse.fault with
  | some f =>
      rw [hfault, Option.elim_some] at hsend
      refine .inl ⟨f, rfl, ?_⟩
      exact perform_bind_error hsend
  | none =>
      rw [hfault, Option.elim_none] at hsend
      refine .inr ⟨rfl, ?_⟩
      generalize ch.connection.driver.nextResponse = answer at hsend
      have hfetch := perform_fetch_eq ((ch.hearAll [.question]).holding answer) (.inr rfl) answer
      rw [Keys.lastKey, ← Call.question, perform_bind_ok hsend,
        perform_bind_ok (perform_change _ _)]
      cases hf : answer.fetchFault with
      | some f =>
          rw [hf, Option.elim_some] at hfetch
          refine ⟨.error (.fault f), fun g hg => ?_, ?_⟩
          · rw [Option.some.inj hg]
          · exact perform_bind_error hfetch
      | none =>
          rw [hf, Option.elim_none] at hfetch
          refine ⟨answer.firstRow.elim (.ok none) Keys.keyIn, fun g hg => by contradiction, ?_⟩
          refine (perform_bind_ok hfetch).trans ?_
          cases answer.firstRow with
          | none => rfl
          | some row => exact perform_ofExcept _ _

/-- The keys are known without the driver, or they are counted from the last key. -/
theorem perform_keysOf_cases (ch : Channel) (answer : Response) (count : Int) :
    (∃ r, (keysOf answer count).perform ch = (r, ch)) ∨
      ∃ f : Option Int → List Value,
        (keysOf answer count).perform ch = (Keys.lastKey >>= fun key => pure (f key)).perform ch := by
  rw [keysOf, perform_bind_ok (perform_get ch)]
  cases ch.connection.dialect with
  | postgres => exact .inl ⟨_, rfl⟩
  | mySql => exact .inl ⟨_, perform_ofExcept _ _⟩
  | sqlite => exact .inl ⟨_, perform_ofExcept _ _⟩
  | sqlServer =>
      by_cases hcount : count ≤ 0
      · simp only [hcount, if_true]
        exact .inl ⟨_, rfl⟩
      · simp only [hcount, if_false]
        exact .inr ⟨_, rfl⟩

theorem hasEffect_generatedKeys : ch.HasEffect reads generatedKeys := by
  cases hcursor : ch.statement.cursor with
  | none =>
      have hrun : generatedKeys.perform ch = (.ok [], ch) := by
        rw [generatedKeys, perform_bind_ok (perform_get ch)]
        simp only [hcursor]
        rfl
      exact hasEffect_of_idle hrun rfl rfl rfl rfl
  | some answer =>
      have hopen : ch.statement.cursor.isSome = true := by rw [hcursor]; rfl
      have hcaught : generatedKeys.perform ch =
          (tryCatch (keysOf answer ch.statement.rowCount) fun cause =>
            throw (ch.statement.failed cause)).perform ch := by
        rw [generatedKeys, perform_bind_ok (perform_get ch)]
        simp only [hcursor]
      rw [perform_tryCatch] at hcaught
      rcases perform_keysOf_cases ch answer ch.statement.rowCount with ⟨r, hkeys⟩ | ⟨f, hkeys⟩
      · rw [hkeys] at hcaught
        cases r with
        | error e => exact hasEffect_of_idle hcaught rfl rfl rfl rfl
        | ok keys => exact hasEffect_of_idle hcaught rfl rfl rfl rfl
      · rw [hkeys] at hcaught
        rcases perform_lastKey_cases ch with ⟨fault, hfault, hasked⟩ | ⟨hfault, r, hr, hasked⟩
        · rw [perform_bind_error hasked] at hcaught
          exact hasEffect_of_perform [.question] hcaught (heard_hearAll ch _)
            (hopen ▸ .unanswered hopen hfault)
        · have hheard : ch.Heard [.question, .fetchOne]
              ((ch.holding ch.connection.driver.nextResponse).hearAll [.question, .fetchOne]) :=
            ⟨⟨rfl, rfl, rfl⟩, rfl, rfl⟩
          cases r with
          | error e =>
              rw [perform_bind_error hasked] at hcaught
              refine hasEffect_of_perform _ hcaught hheard (.asked hopen hfault fun g hg => ?_)
              rw [failureOf_error, Except.error.inj (hr g hg)]
          | ok key =>
              rw [perform_bind_ok hasked] at hcaught
              refine hasEffect_of_perform _ hcaught hheard (.asked hopen hfault fun g hg => ?_)
              exact absurd (hr g hg) (by simp)

end Effect

end Channel

/-! ## Every use -/

namespace Statement

/-- What is done with a statement while it is open. -/
inductive Use where
  | bind (ordinal : Int) (value : Value)
  | bindAll (values : List Value)
  | addBatch
  | executeQuery
  | executeUpdate
  | executeBatch
  | generatedKeys
  | close
  deriving DecidableEq, Inhabited

namespace Use

def action : Use → Action Channel Unit
  | bind ordinal value => Channel.changeIfPossible (·.bind ordinal value)
  | bindAll values => Channel.change (·.bindAll values)
  | addBatch => Channel.changeIfPossible (·.addBatch)
  | executeQuery => Channel.executeQuery.forget
  | executeUpdate => Channel.executeUpdate.forget
  | executeBatch => Channel.executeBatch.forget
  | generatedKeys => Channel.generatedKeys.forget
  | close => Channel.close

/-- Run like this, a statement of the operation only reads, or it does not. -/
def Fits (operation : String) (reads : Bool) : Use → Prop
  | executeQuery => reads = decide (operation = reading)
  | executeUpdate | executeBatch => reads = false
  | _ => True

theorem exists_fits (operation : String) (use : Use) : ∃ reads, use.Fits operation reads := by
  cases use with
  | executeQuery => exact ⟨_, rfl⟩
  | _ => exact ⟨false, by trivial⟩

open Channel

/-- A change that is not possible is not made. -/
theorem hasEffect_changeIfPossible {ch : Channel} {reads : Bool}
    {f : Statement → Except Failure Statement}
    (hf : ∀ s s', f s = .ok s' →
      s'.sql = s.sql ∧ s'.operation = s.operation ∧ s'.cursor = s.cursor) :
    ch.HasEffect reads (changeIfPossible f) := by
  cases hchange : f ch.statement with
  | error e =>
      have hrun : (changeIfPossible f).perform ch = (.error e, ch) := by
        simp [changeIfPossible, perform_bind, hchange]
      exact hasEffect_of_idle hrun rfl rfl rfl rfl
  | ok s =>
      obtain ⟨hsql, hoperation, hcursor⟩ := hf ch.statement s hchange
      have hrun : (changeIfPossible f).perform ch = (.ok (), { ch with statement := s }) := by
        simp [changeIfPossible, perform_bind, hchange, perform_change]
      exact hasEffect_of_idle hrun rfl hsql hoperation hcursor

/-- Whatever is done with a statement, it has one of the effects. -/
theorem hasEffect (use : Use) {ch : Channel} {reads : Bool}
    (h : use.Fits ch.statement.operation reads) : ch.HasEffect reads use.action := by
  cases use with
  | bind ordinal value =>
      apply hasEffect_changeIfPossible
      intro s s' hs
      unfold Statement.bind at hs
      split at hs
      · contradiction
      · rw [← Except.ok.inj hs]
        exact ⟨rfl, rfl, rfl⟩
  | bindAll values =>
      have hrun := perform_change (·.bindAll values) ch
      exact hasEffect_of_idle hrun rfl rfl rfl rfl
  | addBatch =>
      apply hasEffect_changeIfPossible
      intro s s' hs
      obtain ⟨params, -, rfl⟩ := map_eq_ok.mp hs
      exact ⟨rfl, rfl, rfl⟩
  | executeQuery =>
      rw [show reads = _ from h]
      exact hasEffect_executeQuery.forget
  | executeUpdate =>
      rw [show reads = false from h]
      exact hasEffect_executeUpdate.forget
  | executeBatch =>
      rw [show reads = false from h]
      exact hasEffect_executeBatch.forget
  | generatedKeys => exact hasEffect_generatedKeys.forget
  | close => exact hasEffect_close

end Use

end Statement

end RelationalMapper
