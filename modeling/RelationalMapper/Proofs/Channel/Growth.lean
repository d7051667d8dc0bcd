import Mathlib.Data.List.Infix
import RelationalMapper.Proofs.Channel.Use

/-! # The trace of a driver only grows

Whatever a driver answers and wherever it fails, no call is taken back. What was called first on the
way to a result therefore stands first in the trace that is left. -/

namespace RelationalMapper

namespace Action

variable {σ τ α β γ : Type}

/-- The action adds to what is viewed, at its end. -/
def Grows (view : σ → List γ) (a : Action σ α) : Prop := ∀ s, view s <+: view (a.perform s).2

section Grows

variable {view : σ → List γ} {a : Action σ α}

/-- What the first action left stays in front of what its sequel leaves. -/
theorem prefix_bind (a : Action σ α) {f : α → Action σ β} (hf : ∀ x, Grows view (f x)) (s : σ) :
    view (a.perform s).2 <+: view ((a >>= f).perform s).2 := leads_after_bind a hf s

theorem prefix_tryCatch (a : Action σ α) {handler : Failure → Action σ α}
    (hh : ∀ e, Grows view (handler e)) (s : σ) :
    view (a.perform s).2 <+: view ((tryCatch a handler).perform s).2 := leads_after_tryCatch a hh s

theorem prefix_tryFinally (a : Action σ α) {last : Action σ β} (hl : Grows view last) (s : σ) :
    view (a.perform s).2 <+: view ((tryFinally a last).perform s).2 := leads_after_tryFinally a hl s

theorem Grows.bind {f : α → Action σ β} (ha : Grows view a) (hf : ∀ x, Grows view (f x)) :
    Grows view (a >>= f) := Leads.bind ha hf

theorem Grows.tryCatch {handler : Failure → Action σ α} (ha : Grows view a)
    (hh : ∀ e, Grows view (handler e)) : Grows view (tryCatch a handler) := Leads.tryCatch ha hh

theorem grows_pure (x : α) : Grows view (pure x : Action σ α) := leads_pure x

theorem grows_throw (e : Failure) : Grows view (throw e : Action σ α) := leads_throw e

theorem grows_get : Grows view (get : Action σ σ) := leads_get

theorem grows_ofExcept (r : Except Failure α) : Grows view (ofExcept r : Action σ α) :=
  leads_ofExcept r

theorem grows_foldlM {f : β → α → Action σ β} (hf : ∀ b x, Grows view (f b x)) (b : β)
    (items : List α) : Grows view (items.foldlM f b) := leads_foldlM hf b items

/-- An action on a part of the state, where the part is what is viewed. -/
theorem Grows.within {part : τ → σ} {update : τ → σ → τ} {whole : τ → List γ}
    (ha : Grows view a) (hpart : ∀ t, whole t = view (part t))
    (hupdate : ∀ t s, whole (update t s) = view s) : Grows whole (a.within part update) :=
  Leads.within ha hpart hupdate

end Grows

end Action

open RelationalMapper.Action

/-! ## Statements -/

/-- A statement that is handed over stands in the trace, whatever the answer. -/
theorem Driver.trace_send {call : Call} (hcall : call.isStatement = true) (d : Driver) :
    ((send call).perform d).2.trace = d.trace ++ [call] := by
  rw [perform_send_snd call hcall, trace_hear]

def Connection.trace (c : Connection) : List Call := c.driver.trace

theorem Connection.Advances.prefix_trace {c c' : Connection} (h : c.Advances c') :
    c.trace <+: c'.trace := by
  obtain ⟨-, calls, hdriver, -⟩ := h
  rw [trace, trace, hdriver, Driver.trace_hearAll]
  exact List.prefix_append _ _

namespace Channel

def trace (ch : Channel) : List Call := ch.connection.trace

variable {α : Type}

/-- The driver hears what the action calls, and keeps it in its trace. -/
theorem grows_of_hears {a : Action Channel α}
    (h : ∀ ch, ∃ calls, (a.perform ch).2.connection.driver = ch.connection.driver.hearAll calls) :
    Grows trace a := by
  intro ch
  obtain ⟨calls, hdriver⟩ := h ch
  rw [trace, trace, Connection.trace, Connection.trace, hdriver, Driver.trace_hearAll]
  exact List.prefix_append _ _

theorem grows_change (f : Statement → Statement) : Grows trace (change f) :=
  fun _ => List.prefix_refl _

theorem grows_close : Grows trace close :=
  grows_of_hears fun ch => ⟨ch.closing, by rw [perform_close_eq]; rfl⟩

theorem grows_commit : Grows trace (onConnection Connection.commitUnlessInTransaction) :=
  grows_of_hears fun ch => ⟨ch.connection.commitCalls, by rw [perform_commit_eq]; rfl⟩

theorem grows_rollback : Grows trace (onConnection Connection.rollbackUnlessInTransaction) :=
  grows_of_hears fun ch => ⟨ch.connection.rollbackCalls, by rw [perform_rollback_eq]; rfl⟩

theorem grows_fetch {call : Call} (hcall : call = .fetchAll ∨ call = .fetchOne)
    (answer : Response) : Grows trace (onDriver (Driver.fetch call answer)) :=
  grows_of_hears fun ch => ⟨[call], by rw [perform_fetch_eq ch hcall]; rfl⟩

theorem grows_fetchRows (answer : Response) : Grows trace (fetchRows answer) :=
  grows_of_hears fun ch => ⟨fetching answer.columns.isSome, by rw [perform_fetchRows_eq]; rfl⟩

/-- A call through a new cursor stands in the trace, whatever its answer. -/
theorem prefix_transmit {c : Connection} {s : Statement} (hfaults : c.driver.faults = [])
    (hcursor : s.cursor = none) {call : Call} (hcall : call.isStatement = true) :
    c.trace ++ [.openCursor, call] <+: trace ((transmit call).perform ⟨c, s⟩).2 := by
  obtain ⟨behind, -, htrace⟩ := trace_transmit_of_none (c := c) hcursor hcall
  rw [Driver.waiting?_of_faults hfaults] at htrace
  rw [trace, Connection.trace, Connection.trace, htrace]
  exact ⟨behind, by simp⟩

theorem prefix_executeOnce {c : Connection} {s : Statement} {params : List Value}
    (hfaults : c.driver.faults = []) (hcursor : s.cursor = none)
    (hparams : s.parameters = .ok params) :
    c.trace ++ [.openCursor, executeCall c s params] <+:
      trace (executeOnce.perform ⟨c, s⟩).2 := by
  rw [perform_executeOnce_eq hparams]
  exact prefix_transmit hfaults hcursor rfl

/-- What sends a query stands in front of what follows its answer. -/
theorem prefix_executeQuery (ch : Channel) :
    trace (executeOnce.perform ch).2 <+: trace (executeQuery.perform ch).2 := by
  refine prefix_bind _ (fun answer => ?_) ch
  refine grows_get.bind fun ch => Grows.bind
    ((grows_fetchRows answer).tryCatch fun e => ?_) fun rows =>
      (grows_change _).bind fun _ => ?_
  · exact grows_rollback.bind fun _ => grows_throw _
  · simp only
    split
    · exact grows_commit.bind fun _ => grows_pure _
    · exact grows_pure _

theorem prefix_executeUpdate (ch : Channel) :
    trace (executeOnce.perform ch).2 <+: trace (executeUpdate.perform ch).2 := by
  refine prefix_bind _ (fun answer => ?_) ch
  simp only
  split
  · exact grows_throw _
  · exact (grows_change _).bind fun _ => grows_commit.bind fun _ => grows_pure _

/-! ## Generated keys -/

theorem prefix_lastKey (ch : Channel) :
    ch.trace ++ [.execute Keys.lastKeyQuery none] <+: trace (Keys.lastKey.perform ch).2 := by
  have hsent : trace ((onDriver (Driver.send (.execute Keys.lastKeyQuery none))).perform ch).2 =
      ch.trace ++ [.execute Keys.lastKeyQuery none] := Driver.trace_send rfl _
  rw [← hsent]
  refine prefix_bind _ (fun answer => (grows_change _).bind fun _ =>
    (grows_fetch (.inr rfl) answer).bind fun _ => ?_) ch
  split
  · exact grows_pure _
  · exact grows_ofExcept _

/-- The last key is asked for, whatever the answer. -/
theorem prefix_keysOf {ch : Channel} (hd : ch.connection.dialect = .sqlServer) {count : Int}
    (hcount : 0 < count) (answer : Response) :
    ch.trace ++ [.execute Keys.lastKeyQuery none] <+:
      trace ((keysOf answer count).perform ch).2 := by
  have hasked : trace (Keys.lastKey.perform ch).2 <+:
      trace ((Keys.lastKey >>= fun last =>
        pure (last.elim [] (Keys.endingAt · count))).perform ch).2 :=
    prefix_bind _ (fun _ => grows_pure _) ch
  refine (prefix_lastKey ch).trans (hasked.trans ?_)
  have hpositive : ¬count ≤ 0 := by omega
  simp [keysOf, perform_bind, hd, hpositive]

theorem prefix_generatedKeys {ch : Channel} {answer : Response}
    (h : ch.statement.cursor = some answer) :
    trace ((keysOf answer ch.statement.rowCount).perform ch).2 <+:
      trace (generatedKeys.perform ch).2 := by
  have hcaught : trace ((keysOf answer ch.statement.rowCount).perform ch).2 <+:
      trace ((tryCatch (keysOf answer ch.statement.rowCount) fun cause =>
        throw (ch.statement.failed cause)).perform ch).2 :=
    prefix_tryCatch _ (fun _ => grows_throw _) ch
  simpa [generatedKeys, perform_bind, h] using hcaught

theorem grows_generatedKeys : Grows trace generatedKeys := by
  apply grows_of_hears
  intro ch
  have heffect : ch.HasEffect false generatedKeys := hasEffect_generatedKeys
  obtain ⟨calls, hheard, -⟩ := heffect
  exact ⟨calls, hheard.connection.driver_eq⟩

end Channel

/-! ## Blocks on a statement -/

section Blocks

variable {ε α : Type}

/-- The trace of a channel that is worked on beside another state. -/
def Channel.traceOf (p : Channel × ε) : List Call := p.1.trace

/-- The trace of a connection that is worked on beside another state. -/
def Connection.traceOf (p : Connection × ε) : List Call := p.1.trace

theorem Channel.grows_first {a : Action Channel α} (h : Grows Channel.trace a) :
    Grows Channel.traceOf (a.first : Action (Channel × ε) α) := h.within (fun _ => rfl) fun _ _ => rfl

theorem Channel.grows_second (a : Action ε α) :
    Grows Channel.traceOf (a.second : Action (Channel × ε) α) :=
  fun _ => List.prefix_refl _

theorem Connection.prefix_withStatement (sql operation : String) (block : Action (Channel × ε) α)
    (c : Connection) (e : ε) :
    Channel.traceOf (block.perform (⟨c, { sql, operation }⟩, e)).2 <+:
      Connection.traceOf ((withStatement sql operation block).perform (c, e)).2 :=
  prefix_tryFinally block (Channel.grows_first Channel.grows_close) _

end Blocks

end RelationalMapper
