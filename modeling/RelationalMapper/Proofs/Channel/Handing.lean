import RelationalMapper.Proofs.Channel.Quiet

/-! # What is handed over

Of the calls that a driver heard, those that hand statements over are read off its trace. A statement
that is sent on its own is handed over once, however it ends, unless the driver opens no cursor for
it. -/

namespace RelationalMapper

open RelationalMapper.Action

namespace Connection

/-- The connection handed these statements over, and no others. -/
def Hands (statements : List Call) (c c' : Connection) : Prop :=
  ∃ calls, c'.driver.trace = c.driver.trace ++ calls ∧ calls.filter Call.isStatement = statements

/-- The statements that were handed over from one connection to a later one. -/
def statementsSince (c c' : Connection) : List Call :=
  (c'.driver.trace.drop c.driver.trace.length).filter Call.isStatement

section Hands

variable {c c' c'' : Connection} {statements more : List Call}

theorem Hands.trans (h : Hands statements c c') (h' : Hands more c' c'') :
    Hands (statements ++ more) c c'' := by
  obtain ⟨calls, ht, rfl⟩ := h
  obtain ⟨calls', ht', rfl⟩ := h'
  refine ⟨calls ++ calls', ?_, List.filter_append ..⟩
  rw [ht', ht, List.append_assoc]

theorem Hands.statementsSince_eq (h : Hands statements c c') :
    c.statementsSince c' = statements := by
  obtain ⟨calls, ht, rfl⟩ := h
  rw [statementsSince, ht, List.drop_left]

theorem hands_of_trace_eq (h : c'.driver.trace = c.driver.trace) : Hands [] c c' :=
  ⟨[], by rw [h, List.append_nil], rfl⟩

theorem KeepsSilent.hands (h : c.KeepsSilent c') : Hands [] c c' := by
  obtain ⟨-, calls, ht, hsilent⟩ := h
  refine ⟨calls, ht, List.filter_eq_nil_iff.mpr fun call hcall => ?_⟩
  simp [show call.isStatement = false from hsilent call hcall]

theorem Hands.silent (h : Hands statements c c') (h' : c'.KeepsSilent c'') :
    Hands statements c c'' := by
  simpa using h.trans h'.hands

end Hands

@[simp] theorem filter_isStatement_commitCalls (c : Connection) :
    c.commitCalls.filter Call.isStatement = [] := by
  unfold commitCalls
  split <;> rfl

@[simp] theorem filter_isStatement_rollbackCalls (c : Connection) :
    c.rollbackCalls.filter Call.isStatement = [] := by
  unfold rollbackCalls
  split <;> rfl

/-- The statement as it is handed over, unless the driver opens no cursor for it. -/
def handing (c : Connection) (call : Call) : List Call :=
  if (c.driver.waiting? .openCursor).isSome then [] else [call]

theorem length_handing (c : Connection) (call : Call) : (c.handing call).length ≤ 1 := by
  unfold handing
  split <;> simp

end Connection

namespace Channel

open Connection (KeepsSilent Hands)

variable {α : Type} {c : Connection} {s : Statement}

/-- A call through the first cursor of a statement is handed over, whatever its driver answers. -/
theorem hands_transmit (hcursor : s.cursor = none) (call : Call) (hcall : call.isStatement = true) :
    Hands (c.handing call) c ((transmit call).perform ⟨c, s⟩).2.connection := by
  obtain ⟨behind, hbehind, htrace⟩ := trace_transmit_of_none (c := c) hcursor hcall
  have hsilent : behind.filter Call.isStatement = [] := by
    rcases hbehind with rfl | rfl
    · rfl
    · exact c.filter_isStatement_rollbackCalls
  refine ⟨_, htrace, ?_⟩
  rw [Connection.handing]
  split
  · rfl
  · change (call :: behind).filter Call.isStatement = [call]
    rw [List.filter_cons_of_pos hcall, hsilent]

/-- What goes on with an answer hands nothing more over. -/
theorem hands_executeOnce {f : Response → Action Channel α} {params : List Value}
    (hcursor : s.cursor = none) (hparams : s.parameters = .ok params)
    (hf : ∀ answer, Leads KeepsSilent Channel.connection (f answer)) :
    Hands (c.handing (executeCall c s params)) c
      ((executeOnce >>= f).perform ⟨c, s⟩).2.connection := by
  have hsent := hands_transmit (c := c) hcursor (executeCall c s params) rfl
  rw [← perform_executeOnce_eq hparams] at hsent
  exact hsent.silent (leads_after_bind executeOnce hf ⟨c, s⟩)

end Channel

namespace Connection

variable {α : Type}

/-- A block on a statement hands over what it hands over until the statement is closed. -/
theorem hands_onStatement {sql operation : String} {block : Action Channel α} {c : Connection}
    {statements : List Call}
    (h : Hands statements c (block.perform ⟨c, { sql, operation }⟩).2.connection) :
    Hands statements c ((onStatement sql operation block).perform c).2 := by
  rcases hblock : block.perform ⟨c, { sql, operation }⟩ with ⟨r, ch⟩
  rw [hblock] at h
  have hclosed := Channel.silent_close ch
  have hleft : ((onStatement sql operation block).perform c).2 =
      (Channel.close.perform ch).2.connection := by
    simp only [onStatement, alone, withStatement, perform_ofFunction, perform_tryFinally,
      perform_first, hblock]
    rcases Channel.close.perform ch with ⟨_ | _, ch'⟩ <;> rfl
  rw [hleft]
  exact h.silent hclosed

/-- The call by which a text is sent with its parameters. -/
def sending (c : Connection) (sql : String) (params : List Value) : Call :=
  .execute (c.dialect.standardize sql) (some (params.map (·.bound c.dialect.bindingStyle)))

theorem hands_execute (c : Connection) (sql : String) (params : List Value) (operation : String) :
    Hands (c.handing (c.sending sql params)) c ((execute sql params operation).perform c).2 := by
  let fresh : Statement := { sql, operation }
  apply hands_onStatement
  rw [perform_bind_ok (Channel.perform_change (·.bindAll params) _), Channel.executeUpdate_eq]
  exact Channel.hands_executeOnce rfl (fresh.parameters_bindAll params) Channel.silent_finishUpdate

theorem hands_query (c : Connection) (sql : String) (params : List Value) :
    Hands (c.handing (c.sending sql params)) c ((query sql params).perform c).2 := by
  let fresh : Statement := { sql, operation := Statement.reading }
  apply hands_onStatement
  rw [perform_bind_ok (Channel.perform_change (·.bindAll params) _), Channel.executeQuery_eq]
  exact Channel.hands_executeOnce rfl (fresh.parameters_bindAll params) Channel.silent_finishQuery

end Connection

end RelationalMapper
