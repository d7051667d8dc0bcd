import RelationalMapper.Proofs.Channel.Quiet
import RelationalMapper.Proofs.Preserved

/-! # Terms that a connection keeps

What a driver raises is given in advance, and so is what it may be handed from some moment on. As long
as each statement that is sent is one of those, everything that happens on the connection keeps to
these terms, and what fails in the end is what the driver raised or a failure of sending. -/

namespace RelationalMapper

open RelationalMapper.Action

/-- What a driver may raise, and what it may be handed behind the calls that it heard before. -/
structure Terms where
  dialect : Dialect
  before : List Call
  raises : Fault → Prop
  sends : Call → Prop

/-! ## Drivers -/

namespace Driver

variable (d : Driver) (c : Call)

theorem mem_responses_of_hear {answer : Response} (h : answer ∈ (d.hear c).responses) :
    answer ∈ d.responses := by
  unfold hear at h
  split at h
  · exact List.mem_of_mem_tail h
  · split at h <;> exact h

theorem mem_faults_of_hear {p : FailurePoint × Fault} (h : p ∈ (d.hear c).faults) : p ∈ d.faults := by
  unfold hear at h
  split at h
  · exact h
  · split at h
    · exact List.mem_of_mem_erase h
    · exact h

theorem mem_faults_of_refusal? {point : FailurePoint} {f : Fault}
    (h : d.refusal? point.call = some f) : (point, f) ∈ d.faults := by
  have hwaiting : d.faults.lookup point = some f := by simpa [refusal?, waiting?] using h
  obtain ⟨front, rest, hfaults, -⟩ := List.lookup_eq_some_iff.mp hwaiting
  rw [hfaults]
  exact List.mem_append_right front List.mem_cons_self

end Driver

namespace Terms

variable {t : Terms}

/-- The answer raises what may be raised. -/
def Answers (t : Terms) (answer : Response) : Prop :=
  (∀ f, answer.fault = some f → t.raises f) ∧ ∀ f, answer.fetchFault = some f → t.raises f

/-- A driver under the terms. -/
structure Serves (t : Terms) (d : Driver) : Prop where
  answers : ∀ answer ∈ d.responses, t.Answers answer
  faults : ∀ point f, (point, f) ∈ d.faults → t.raises f
  exists_calls : ∃ calls, d.trace = t.before ++ calls ∧ ∀ call ∈ calls, call.Quiet ∨ t.sends call

/-- A connection under the terms. -/
structure Holds (t : Terms) (c : Connection) : Prop where
  dialect_eq : c.dialect = t.dialect
  serves : t.Serves c.driver

/-- A failure under the terms: a fault that may be raised, or what sending makes of one. -/
def Allows (t : Terms) : Failure → Prop
  | .fault f => t.raises f
  | .misuse _ => False
  | _ => True

theorem Serves.hear {d : Driver} (h : t.Serves d) {call : Call}
    (hcall : call.Quiet ∨ t.sends call) : t.Serves (d.hear call) := by
  obtain ⟨calls, htrace, hcalls⟩ := h.exists_calls
  refine ⟨fun answer ha => h.answers answer (d.mem_responses_of_hear call ha),
    fun point f hf => h.faults point f (d.mem_faults_of_hear call hf), calls ++ [call], ?_, ?_⟩
  · rw [Driver.trace_hear, htrace, List.append_assoc]
  · intro other hother
    rcases List.mem_append.mp hother with hother | hother
    · exact hcalls other hother
    · rwa [List.mem_singleton.mp hother]

theorem Serves.nextResponse {d : Driver} (h : t.Serves d) : t.Answers d.nextResponse :=
  Driver.nextResponse_of_forall ⟨fun f hf => by simp at hf, fun f hf => by simp at hf⟩ h.answers

theorem preserves_reach (point : FailurePoint) :
    Preserves t.Serves t.Allows (fun _ => True) (Driver.reach point) := by
  intro d hd
  have hquiet : point.call.Quiet := .inl (Call.isStatement_call point)
  refine leaves_of_perform (d.perform_reach_eq point) (hd.hear (.inl hquiet)) ?_
  cases hrefusal : d.refusal? point.call with
  | none => trivial
  | some f => exact hd.faults point f (d.mem_faults_of_refusal? hrefusal)

theorem preserves_send {call : Call} (hcall : call.isStatement = true)
    (hsent : call.Quiet ∨ t.sends call) :
    Preserves t.Serves t.Allows t.Answers (Driver.send call) := by
  intro d hd
  have hstate := Driver.perform_send_snd call hcall d
  refine ⟨hstate ▸ hd.hear hsent, ?_⟩
  rw [Driver.send, perform_ofFunction]
  simp only
  have hanswer := hd.nextResponse
  cases hfault : d.nextResponse.fault with
  | none => exact hanswer
  | some f => exact hanswer.1 f hfault

theorem preserves_fetch {call : Call} (hcall : call = .fetchAll ∨ call = .fetchOne)
    {answer : Response} (ha : t.Answers answer) :
    Preserves t.Serves t.Allows (fun _ => True) (Driver.fetch call answer) := by
  intro d hd
  have hquiet : call.Quiet := .inl (by rcases hcall with rfl | rfl <;> rfl)
  have hstate : ((Driver.fetch call answer).perform d).2 = d.hear call := by
    rcases hcall with rfl | rfl <;> exact Driver.perform_fetch_snd _ rfl rfl answer d
  refine ⟨hstate ▸ hd.hear (.inl hquiet), ?_⟩
  rw [Driver.fetch, perform_ofFunction]
  cases hfault : answer.fetchFault with
  | none => trivial
  | some f => exact ha.2 f hfault

/-! ## Connections -/

variable {α : Type} {P : Failure → Prop} {Q : α → Prop}

theorem preserves_onDriver {a : Action Driver α} (h : Preserves t.Serves P Q a) :
    Preserves t.Holds P Q (Connection.onDriver a) :=
  h.within (fun _ hc => hc.serves) fun _ _ hc hd => ⟨hc.dialect_eq, hd⟩

theorem preserves_commitUnlessInTransaction :
    Preserves t.Holds t.Allows (fun _ => True) Connection.commitUnlessInTransaction := by
  refine preserves_get.bind fun c _ => ?_
  split
  · exact preserves_onDriver (preserves_reach .commit)
  · exact preserves_pure trivial

theorem preserves_rollbackUnlessInTransaction :
    Preserves t.Holds P (fun _ => True) Connection.rollbackUnlessInTransaction := by
  refine preserves_get.bind fun c _ => ?_
  split
  · exact (preserves_onDriver (preserves_reach .rollback)).tryCatch fun _ _ => preserves_pure trivial
  · exact preserves_pure trivial

theorem preserves_countCall :
    Preserves t.Holds t.Allows (fun _ => True) Connection.countCall :=
  preserves_modify fun _ hc => ⟨hc.dialect_eq, hc.serves⟩

/-! ## Statements -/

/-- A channel whose connection is under the terms. -/
abbrev Binds (t : Terms) (ch : Channel) : Prop := t.Holds ch.connection

theorem preserves_onConnection {a : Action Connection α} (h : Preserves t.Holds P Q a) :
    Preserves t.Binds P Q (Channel.onConnection a) :=
  h.within (fun _ hch => hch) fun _ _ _ hc => hc

theorem preserves_change (f : Statement → Statement) :
    Preserves t.Binds P (fun _ => True) (Channel.change f) := preserves_modify fun _ hch => hch

theorem preserves_close : Preserves t.Binds t.Allows (fun _ => True) Channel.close := by
  refine preserves_get.bind fun ch _ => ?_
  split
  · exact (preserves_onConnection (preserves_onDriver (preserves_reach _))).tryFinally
      (preserves_change _)
  · exact preserves_pure trivial

theorem preserves_transmit {call : Call} (hcall : call.isStatement = true)
    (hsent : call.Quiet ∨ t.sends call) :
    Preserves t.Binds t.Allows t.Answers (Channel.transmit call) := by
  -- The answer is returned early, so it comes as an exception that is taken up behind the last action.
  let answered : Except Response Response → Prop := fun r =>
    ∀ answer, r = .error answer ∨ r = .ok answer → t.Answers answer
  refine preserves_close.bind fun _ _ =>
    (preserves_onConnection (preserves_onDriver (preserves_reach _))).bind fun _ _ =>
      (preserves_change _).bind fun _ _ => preserves_get.bind fun ch _ =>
        Preserves.bind (Q := answered) ?_ fun r hr => ?_
  · refine Preserves.tryFinally (Preserves.tryCatch (show Preserves t.Binds t.Allows answered _ from ?_)
      fun e he => ?_) (preserves_onConnection preserves_countCall)
    · refine (preserves_onConnection (preserves_onDriver (preserves_send hcall hsent))).bind
        fun answer ha => (preserves_change _).bind fun _ _ =>
          preserves_pure (x := Except.error answer) ?_
      intro other hother
      obtain rfl : answer = other := by simpa using hother
      exact ha
    · refine (preserves_onConnection preserves_rollbackUnlessInTransaction).bind fun _ _ =>
        (preserves_throw (Q := fun _ => False) ?_).bind fun _ h => h.elim
      split
      · exact he
      · trivial
  · cases r with
    | error answer => exact preserves_pure (hr answer (.inl rfl))
    | ok answer => exact preserves_pure (hr answer (.inr rfl))

/-- The terms admit a statement with these parameters. -/
def Sends (t : Terms) (sql : String) (params : List Value) : Prop :=
  t.sends (.execute (t.dialect.standardize sql) (some (params.map (·.bound t.dialect.bindingStyle))))

section Sending

variable {ch : Channel} {params : List Value}

theorem leaves_executeOnce (hch : t.Binds ch) (hparams : ch.statement.parameters = .ok params)
    (hsends : t.Sends ch.statement.sql params) :
    Leaves t.Binds t.Allows t.Answers ch Channel.executeOnce := by
  rw [Sends, ← hch.dialect_eq] at hsends
  have hready : (ofExcept ch.statement.parameters).perform ch = (.ok params, ch) := by
    rw [perform_ofExcept, hparams]
  refine leaves_bind_of_ok (perform_get ch) (leaves_bind_of_ok hready ?_)
  exact preserves_transmit rfl (.inr hsends) ch hch

theorem preserves_fetchRows {answer : Response} (ha : t.Answers answer) :
    Preserves t.Binds t.Allows (fun _ => True) (Channel.fetchRows answer) := by
  unfold Channel.fetchRows
  split
  · exact preserves_pure trivial
  · exact (preserves_onConnection (preserves_onDriver (preserves_fetch (.inl rfl) ha))).bind
      fun _ _ => preserves_pure trivial

theorem leaves_executeQuery (hch : t.Binds ch) (hparams : ch.statement.parameters = .ok params)
    (hsends : t.Sends ch.statement.sql params) :
    Leaves t.Binds t.Allows (fun _ => True) ch Channel.executeQuery := by
  refine (leaves_executeOnce hch hparams hsends).bind fun answer ha => preserves_get.bind fun ch _ =>
    Preserves.bind (R := fun _ => True) ((preserves_fetchRows ha).tryCatch fun e _ => ?_) fun rows _ =>
      (preserves_change _).bind fun _ _ => ?_
  · exact (preserves_onConnection preserves_rollbackUnlessInTransaction).bind fun _ _ =>
      preserves_throw trivial
  · simp only
    split
    · exact (preserves_onConnection preserves_commitUnlessInTransaction).bind fun _ _ =>
        preserves_pure trivial
    · exact preserves_pure trivial

theorem leaves_executeUpdate (hch : t.Binds ch) (hparams : ch.statement.parameters = .ok params)
    (hsends : t.Sends ch.statement.sql params) :
    Leaves t.Binds t.Allows (fun _ => True) ch Channel.executeUpdate := by
  refine (leaves_executeOnce hch hparams hsends).bind fun answer _ => ?_
  simp only
  split
  · exact preserves_throw trivial
  · exact (preserves_change _).bind fun _ _ =>
      (preserves_onConnection preserves_commitUnlessInTransaction).bind fun _ _ =>
        preserves_pure trivial

/-- A queue is sent as one call. -/
theorem leaves_executeBatch (hch : t.Binds ch)
    (hsends : t.sends (.executeMany (t.dialect.standardize ch.statement.sql)
      (ch.statement.batch.map fun params => params.map (·.bound t.dialect.bindingStyle)))) :
    Leaves t.Binds t.Allows (fun _ => True) ch Channel.executeBatch := by
  rw [← hch.dialect_eq] at hsends
  refine leaves_bind_of_ok (perform_get ch) ?_
  simp only
  split
  · exact preserves_pure trivial ch hch
  · refine (preserves_transmit rfl (.inr hsends) ch hch).bind fun answer _ => ?_
    exact (preserves_change _).bind fun _ _ =>
      (preserves_onConnection preserves_commitUnlessInTransaction).bind fun _ _ =>
        preserves_pure trivial

end Sending

theorem preserves_lastKey :
    Preserves t.Binds (fun _ => True) (fun _ => True) Keys.lastKey := by
  have hasked : Preserves t.Binds t.Allows t.Answers
      (Channel.onDriver (Driver.send (.execute Keys.lastKeyQuery none))) :=
    preserves_onConnection (preserves_onDriver (preserves_send rfl (.inl (.inr rfl))))
  refine (hasked.weaken fun _ _ => trivial).bind fun answer ha => (preserves_change _).bind fun _ _ =>
    ((preserves_onConnection (preserves_onDriver (preserves_fetch (.inr rfl) ha))).weaken
      fun _ _ => trivial).bind fun _ _ => ?_
  split
  · exact preserves_pure trivial
  · exact preserves_ofExcept (fun _ _ => trivial) fun _ _ => trivial

theorem preserves_generatedKeys :
    Preserves t.Binds t.Allows (fun _ => True) Channel.generatedKeys := by
  have hkeys : ∀ answer count,
      Preserves t.Binds (fun _ => True) (fun _ => True) (Channel.keysOf answer count) := by
    intro answer count
    refine preserves_get.bind fun ch _ => ?_
    split
    · exact preserves_pure trivial
    · exact preserves_ofExcept (fun _ _ => trivial) fun _ _ => trivial
    · exact preserves_ofExcept (fun _ _ => trivial) fun _ _ => trivial
    · split
      · exact preserves_pure trivial
      · exact preserves_lastKey.bind fun _ _ => preserves_pure trivial
  refine preserves_get.bind fun ch _ => ?_
  simp only
  split
  · exact preserves_pure trivial
  · exact (hkeys _ _).tryCatch fun _ _ => preserves_throw trivial

/-! ## Blocks on a statement -/

section Blocks

variable {ε : Type} {K : ε → Prop}

/-- A block that keeps to the terms does so with its cursor closed. -/
theorem leaves_withStatement {sql operation : String} {block : Action (Channel × ε) α}
    {c : Connection} {e : ε}
    (h : Leaves (fun p => t.Binds p.1 ∧ K p.2) t.Allows Q (⟨c, { sql, operation }⟩, e) block) :
    Leaves (fun p => t.Holds p.1 ∧ K p.2) t.Allows Q (c, e)
      (Connection.withStatement sql operation block) := by
  have hclosed := h.tryFinally fun p hp => (preserves_close p.1 hp.1).first hp.2
  exact hclosed

theorem leaves_onStatement {sql operation : String} {block : Action Channel α} {c : Connection}
    (h : Leaves t.Binds t.Allows Q ⟨c, { sql, operation }⟩ block) :
    Leaves t.Holds t.Allows Q c (Connection.onStatement sql operation block) := by
  have hbeside := leaves_withStatement (K := fun _ : Unit => True)
    (h.first (J := fun _ : Unit => True) (u := ()) trivial)
  exact ⟨hbeside.1.1, hbeside.2⟩

theorem leaves_execute {c : Connection} (hc : t.Holds c) {sql operation : String}
    {params : List Value} (hsends : t.Sends sql params) :
    Leaves t.Holds t.Allows (fun _ => True) c (Connection.execute sql params operation) := by
  refine leaves_onStatement (leaves_bind_of_ok (Channel.perform_change _ _) ?_)
  exact leaves_executeUpdate hc (Statement.parameters_bindAll _ params) hsends

end Blocks

end Terms

end RelationalMapper
