import RelationalMapper.Proofs.Channel.Transmission

/-! # What comes behind a statement

A statement is handed over once, unless its driver opens no cursor for it. What its connection does
behind it, whatever the driver answers, hands nothing over but the question for the last key. -/

namespace RelationalMapper

open RelationalMapper.Action

namespace Call

/-- The call hands no statement over. -/
def Silent (c : Call) : Prop := c.isStatement = false

/-- The call hands no statement over, unless it asks for the last key. -/
def Quiet (c : Call) : Prop := c.isStatement = false ∨ c = .execute Keys.lastKeyQuery none

end Call

namespace Connection

/-- A connection after calls of one kind. -/
structure Adds (P : Call → Prop) (c c' : Connection) : Prop where
  dialect_eq : c'.dialect = c.dialect
  exists_calls : ∃ calls, c'.driver.trace = c.driver.trace ++ calls ∧ ∀ call ∈ calls, P call

namespace Adds

variable {P Q : Call → Prop} {c c' c'' : Connection}

theorem of_trace_eq (hd : c'.dialect = c.dialect) (ht : c'.driver.trace = c.driver.trace) :
    c.Adds P c' := ⟨hd, [], by simpa using ht, by simp⟩

theorem of_call {call : Call} (hcall : P call) (hd : c'.dialect = c.dialect)
    (ht : c'.driver.trace = c.driver.trace ++ [call]) : c.Adds P c' :=
  ⟨hd, [call], ht, by simpa using hcall⟩

theorem trans (h : c.Adds P c') (h' : c'.Adds P c'') : c.Adds P c'' := by
  obtain ⟨hd, calls, ht, hcalls⟩ := h
  obtain ⟨hd', more, ht', hmore⟩ := h'
  refine ⟨hd'.trans hd, calls ++ more, ?_, fun call hcall => ?_⟩
  · rw [ht', ht, List.append_assoc]
  · exact (List.mem_append.mp hcall).elim (hcalls call) (hmore call)

theorem mono (h : c.Adds P c') (hPQ : ∀ call, P call → Q call) : c.Adds Q c' := by
  obtain ⟨hd, calls, ht, hcalls⟩ := h
  exact ⟨hd, calls, ht, fun call hcall => hPQ call (hcalls call hcall)⟩

end Adds

instance {P : Call → Prop} : IsPreorder Connection (Adds P) where
  refl _ := .of_trace_eq rfl rfl
  trans _ _ _ := .trans

/-- A connection after silent calls. -/
abbrev KeepsSilent : Connection → Connection → Prop := Adds Call.Silent

/-- A connection after quiet calls. -/
abbrev Settles : Connection → Connection → Prop := Adds Call.Quiet

theorem KeepsSilent.settles {c c' : Connection} (h : c.KeepsSilent c') : c.Settles c' :=
  h.mono fun _ => .inl

theorem silent_reach (point : FailurePoint) : Leads KeepsSilent id (onDriver (Driver.reach point)) := by
  intro c
  refine .of_call (Call.isStatement_call point) rfl ?_
  have h := Driver.perform_reach_eq c.driver point
  exact (congrArg (·.2.trace) h).trans (Driver.trace_hear _ _)

theorem silent_commitUnlessInTransaction : Leads KeepsSilent id commitUnlessInTransaction := by
  refine leads_get.bind fun c => ?_
  split
  · exact silent_reach .commit
  · exact leads_pure _

theorem silent_rollbackUnlessInTransaction : Leads KeepsSilent id rollbackUnlessInTransaction := by
  refine leads_get.bind fun c => ?_
  split
  · exact (silent_reach .rollback).tryCatch fun _ => leads_pure _
  · exact leads_pure _

end Connection

namespace Channel

open Connection (KeepsSilent Settles)

variable {α : Type}

theorem silent_onConnection {a : Action Connection α} (h : Leads KeepsSilent id a) :
    Leads KeepsSilent Channel.connection (onConnection a) := h.within (fun _ => rfl) fun _ _ => rfl

theorem silent_change (f : Statement → Statement) : Leads KeepsSilent Channel.connection (change f) :=
  leads_modify fun _ => refl_of KeepsSilent _

theorem silent_close : Leads KeepsSilent Channel.connection close := by
  refine leads_get.bind fun ch => ?_
  split
  · exact (silent_onConnection (Connection.silent_reach _)).tryFinally (silent_change _)
  · exact leads_pure _

theorem silent_fetch {call : Call} (hcall : call = .fetchAll ∨ call = .fetchOne)
    (answer : Response) :
    Leads KeepsSilent Channel.connection (onDriver (Driver.fetch call answer)) := by
  intro ch
  rw [perform_fetch_eq ch hcall]
  exact .of_call (by rcases hcall with rfl | rfl <;> rfl) rfl (Driver.trace_hearAll _ [call])

theorem silent_fetchRows (answer : Response) :
    Leads KeepsSilent Channel.connection (fetchRows answer) := by
  unfold fetchRows
  split
  · exact leads_pure _
  · exact (silent_fetch (.inl rfl) answer).bind fun _ => leads_pure _

/-- What is done with the answer to a query. -/
def finishQuery (answer : Response) : Action Channel (List Row) := do
  let s := (← get).statement
  let rows ← try fetchRows answer catch cause =>
    onConnection Connection.rollbackUnlessInTransaction
    throw (s.failed cause)
  change fun s => { s with rowCount := rows.length }
  if s.operation ≠ Statement.reading then onConnection Connection.commitUnlessInTransaction
  return rows

/-- What is done with the answer to a statement that changes rows. -/
def finishUpdate (answer : Response) : Action Channel Int :=
  match answer.rowCount with
  | none => throw noRowCount
  | some n => do
    let count := max n 0
    change fun s => { s with rowCount := count }
    onConnection Connection.commitUnlessInTransaction
    return count

theorem executeQuery_eq : executeQuery = executeOnce >>= finishQuery := rfl

theorem executeUpdate_eq : executeUpdate = executeOnce >>= finishUpdate := rfl

theorem silent_finishQuery (answer : Response) :
    Leads KeepsSilent Channel.connection (finishQuery answer) := by
  refine leads_get.bind fun ch => Leads.bind ((silent_fetchRows answer).tryCatch fun e => ?_) fun _ =>
    (silent_change _).bind fun _ => ?_
  · exact (silent_onConnection Connection.silent_rollbackUnlessInTransaction).bind fun _ =>
      leads_throw _
  · simp only
    split
    · exact (silent_onConnection Connection.silent_commitUnlessInTransaction).bind fun _ =>
        leads_pure _
    · exact leads_pure _

theorem silent_finishUpdate (answer : Response) :
    Leads KeepsSilent Channel.connection (finishUpdate answer) := by
  unfold finishUpdate
  split
  · exact leads_throw _
  · exact (silent_change _).bind fun _ =>
      (silent_onConnection Connection.silent_commitUnlessInTransaction).bind fun _ => leads_pure _

theorem settles_lastKey : Leads Settles Channel.connection Keys.lastKey := by
  have hasked : Leads Settles Channel.connection (onDriver (Driver.send .question)) := by
    intro ch
    rw [perform_send_eq ch rfl]
    exact .of_call (.inr rfl) rfl (Driver.trace_hearAll ch.connection.driver [.question])
  have hfetched : ∀ answer, Leads Settles Channel.connection
      (onDriver (Driver.fetch .fetchOne answer)) := fun answer =>
    (silent_fetch (.inr rfl) answer).mono fun _ _ => KeepsSilent.settles
  have hchanged : ∀ f, Leads Settles Channel.connection (change f) := fun f =>
    (silent_change f).mono fun _ _ => KeepsSilent.settles
  refine hasked.bind fun answer => (hchanged _).bind fun _ => (hfetched answer).bind fun _ => ?_
  split
  · exact leads_pure _
  · exact leads_ofExcept _

theorem settles_generatedKeys : Leads Settles Channel.connection generatedKeys := by
  have hkeys : ∀ answer count, Leads Settles Channel.connection (keysOf answer count) := by
    intro answer count
    refine leads_get.bind fun ch => ?_
    split
    · exact leads_pure _
    · exact leads_ofExcept _
    · exact leads_ofExcept _
    · split
      · exact leads_pure _
      · exact settles_lastKey.bind fun _ => leads_pure _
  refine leads_get.bind fun ch => ?_
  simp only
  split
  · exact leads_pure _
  · exact (hkeys _ _).tryCatch fun _ => leads_throw _

/-! ## Statements that succeed -/

/-- A connection after a call through a new cursor. -/
structure Sent (c : Connection) (call : Call) (c' : Connection) : Prop where
  dialect_eq : c'.dialect = c.dialect
  trace_eq : c'.driver.trace = c.driver.trace ++ [.openCursor, call]

/-- A call succeeds only if it was handed over, through a cursor that could be opened. -/
theorem sent_of_transmit {c c' : Connection} {s s' : Statement} {call : Call} {answer : Response}
    (hcursor : s.cursor = none) (hcall : call.isStatement = true)
    (h : (transmit call).perform ⟨c, s⟩ = (.ok answer, ⟨c', s'⟩)) : Sent c call c' := by
  obtain ⟨calls, r, ch', hrun, hheard, hsent⟩ := transmit_cases ⟨c, s⟩ hcall
  rw [h] at hrun
  obtain ⟨rfl, rfl⟩ := Prod.mk.inj hrun
  generalize s'.cursor.isSome = isOpen at hsent
  cases hsent with
  | answered =>
      refine ⟨hheard.connection.dialect_eq, ?_⟩
      rw [hheard.connection.driver_eq, Driver.trace_hearAll, opening_of_none hcursor]
      rfl

theorem sent_of_executeOnce {c c' : Connection} {s s' : Statement} {params : List Value}
    {answer : Response} (hcursor : s.cursor = none) (hparams : s.parameters = .ok params)
    (h : executeOnce.perform ⟨c, s⟩ = (.ok answer, ⟨c', s'⟩)) :
    Sent c (executeCall c s params) c' := by
  rw [perform_executeOnce_eq hparams] at h
  exact sent_of_transmit hcursor rfl h

/-- A connection that sent a call and is quiet behind it. -/
def SentQuietly (c : Connection) (call : Call) (c' : Connection) : Prop :=
  ∃ sent, Sent c call sent ∧ sent.Settles c'

theorem SentQuietly.settles {c c' c'' : Connection} {call : Call} (h : SentQuietly c call c')
    (h' : c'.Settles c'') : SentQuietly c call c'' := by
  obtain ⟨sent, hsent, hquiet⟩ := h
  exact ⟨sent, hsent, hquiet.trans h'⟩

/-- What goes on with an answer is quiet, if the statement succeeds. -/
theorem sentQuietly_of_bind {f : Response → Action Channel α} {c : Connection} {s : Statement}
    {params : List Value} {ch' : Channel} {a : α} (hcursor : s.cursor = none)
    (hparams : s.parameters = .ok params)
    (hf : ∀ answer, Leads KeepsSilent Channel.connection (f answer))
    (h : (executeOnce >>= f).perform ⟨c, s⟩ = (.ok a, ch')) :
    SentQuietly c (executeCall c s params) ch'.connection := by
  obtain ⟨answer, ⟨sent, s'⟩, honce, hrest⟩ := of_perform_bind_ok h
  refine ⟨sent, sent_of_executeOnce hcursor hparams honce, ?_⟩
  have hquiet := hf answer ⟨sent, s'⟩
  rw [hrest] at hquiet
  exact hquiet.settles

theorem sentQuietly_of_executeQuery {c : Connection} {s : Statement} {params : List Value}
    {ch' : Channel} {rows : List Row} (hcursor : s.cursor = none)
    (hparams : s.parameters = .ok params) (h : executeQuery.perform ⟨c, s⟩ = (.ok rows, ch')) :
    SentQuietly c (executeCall c s params) ch'.connection := by
  rw [executeQuery_eq] at h
  exact sentQuietly_of_bind hcursor hparams silent_finishQuery h

theorem sentQuietly_of_executeUpdate {c : Connection} {s : Statement} {params : List Value}
    {ch' : Channel} {n : Int} (hcursor : s.cursor = none)
    (hparams : s.parameters = .ok params) (h : executeUpdate.perform ⟨c, s⟩ = (.ok n, ch')) :
    SentQuietly c (executeCall c s params) ch'.connection := by
  rw [executeUpdate_eq] at h
  exact sentQuietly_of_bind hcursor hparams silent_finishUpdate h

end Channel

end RelationalMapper
