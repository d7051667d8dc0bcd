import RelationalMapper.Proofs.Session.Settlement

/-! # Failures that name their statement

What a driver raises at a statement, at the fetching of its rows or at the question for its key ends
the operation, and leaves it under the operation's name, with the statement's text and with the cause.
What it raises where a cursor is opened or closed, or where a statement is committed, does not. -/

namespace RelationalMapper

open RelationalMapper.Action

/-! ## What a statement is about -/

/-- The last text that was sent, where another one was sent before. -/
def lastText (text : Option String) (calls : List Call) : Option String :=
  (calls.filterMap Call.text?).getLast?.or text

theorem lastText_append (text : Option String) (calls more : List Call) :
    lastText text (calls ++ more) = lastText (lastText text calls) more := by
  simp [lastText, List.getLast?_append, Option.or_assoc]

theorem lastText_eq_self {calls : List Call} (h : ∀ call ∈ calls, call.text? = none)
    (text : Option String) : lastText text calls = text := by
  have hnone : calls.filterMap Call.text? = [] := List.filterMap_eq_nil_iff.mpr h
  simp [lastText, hnone]

/-- Handling cursors sends no text. -/
theorem lastText_of_handlesCursor {calls : List Call}
    (h : ∀ call ∈ calls, call.handlesCursor = true) (text : Option String) :
    lastText text calls = text := by
  apply lastText_eq_self
  intro call hcall
  rcases Call.eq_of_handlesCursor (h call hcall) with rfl | rfl <;> rfl

theorem lastText_cons {call : Call} {calls : List Call} {t : String} (htext : call.text? = some t)
    (h : ∀ call ∈ calls, call.text? = none) (text : Option String) :
    lastText text (call :: calls) = some t := by
  have hone : lastText text [call] = some t := by simp [lastText, htext]
  rw [← List.singleton_append, lastText_append, lastText_eq_self h, hone]

/-- The text that a call is about: its own one, or the last one in front of it. -/
def Call.about (c : Call) (text : Option String) : Option String := c.text?.or text

/-- What was sent before does not matter to what is about a later text. -/
theorem Call.about_lastText {c : Call} {calls : List Call} {t : String}
    (h : c.about (lastText none calls) = some t) (text : Option String) :
    c.about (lastText text calls) = some t := by
  unfold about lastText at h ⊢
  cases hc : c.text? with
  | some own => simpa [hc] using h
  | none =>
      cases hlast : (calls.filterMap Call.text?).getLast? with
      | some last => simpa [hc, hlast] using h
      | none => simp [hc, hlast] at h

namespace Exchange

/-- What a driver raised at the statement leaves under the statement. -/
def Surfaces (x : Exchange) (text : Option String) (operation : String) (d : Dialect)
    (o : Option Failure) : Prop :=
  ∀ f, x.fault? = some f → f.kind.isLibrary = false →
    ∃ sql, o = some (.execution operation (some sql) (some (.fault f))) ∧
      x.call.about text = some (d.standardize sql)

variable {x : Exchange} {text : Option String} {operation : String} {d : Dialect}
  {o : Option Failure}

/-- Where nothing leaves, nothing failed. -/
theorem Surfaces.of_none (h : x.Surfaces text operation d none) (text' : Option String) :
    x.Surfaces text' operation d o := by
  intro f hf hforeign
  obtain ⟨sql, hnone, -⟩ := h f hf hforeign
  contradiction

theorem Surfaces.extended (h : x.Surfaces text operation d o) {more : List Call}
    (hmore : ∀ call ∈ more, call.handlesCursor = true) :
    (x.extended more).Surfaces text operation d o := by
  intro f hf
  rw [fault?_extended hmore] at hf
  exact h f hf

theorem Surfaces.later {calls : List Call} (h : x.Surfaces (lastText none calls) operation d o)
    (text : Option String) : x.Surfaces (lastText text calls) operation d o := by
  intro f hf hforeign
  obtain ⟨sql, ho, habout⟩ := h f hf hforeign
  exact ⟨sql, ho, Call.about_lastText habout text⟩

end Exchange

namespace Channel

variable {ch : Channel} {calls : List Call} {reads cursorOpen : Bool} {o : Option Failure}

/-- Behind these calls, an open cursor is one of the channel's statement, and what failed among them
left under the statement. -/
structure Surfacing (ch : Channel) (text : Option String) (calls : List Call) (cursorOpen : Bool)
    (o : Option Failure) : Prop where
  last : cursorOpen = true → lastText text calls = some ch.driverText
  surfaces : ∀ x ∈ ch.connection.driver.exchanges calls,
    x.Surfaces (lastText text calls) ch.statement.operation ch.connection.dialect o

/-- Where nothing is handed over, nothing fails at a statement. -/
theorem surfacing_of_forall {text : Option String}
    (hcalls : ∀ call ∈ calls, call.handlesCursor = true)
    (htext : cursorOpen = true → text = some ch.driverText) :
    ch.Surfacing text calls cursorOpen o := by
  refine ⟨fun hopen => ?_, ?_⟩
  · rw [lastText_of_handlesCursor hcalls, htext hopen]
  · rw [Driver.exchanges_eq_nil fun call hcall => Call.isStatement_of_handlesCursor (hcalls call hcall)]
    simp

/-- The question is about the statement of the open cursor. -/
theorem surfacing_of_question {text : Option String} {more : List Call}
    (htext : text = some ch.driverText)
    (hmore : ∀ call ∈ more, call.text? = none ∧ call.isStatement = false)
    (hfault : ∀ f, Exchange.fault? { place := ch.connection.driver.trace.length, call := .question
                                     answer := ch.connection.driver.nextResponse, behind := more } =
      some f → o = some (ch.statement.failed (.fault f))) :
    ch.Surfacing text (.question :: more) true o := by
  have hlast : lastText text (.question :: more) = some ch.driverText := by
    rw [lastText_eq_self (List.forall_mem_cons.mpr ⟨rfl, fun c hc => (hmore c hc).1⟩), htext]
  have hone := Driver.exchanges_eq_nil (d := ch.connection.driver.hear .question)
    fun c hc => (hmore c hc).2
  refine ⟨fun _ => hlast, ?_⟩
  rw [Driver.exchanges_of_statement rfl, hone, hlast,
    leading_eq_self fun c hc => (hmore c hc).2]
  exact List.forall_mem_singleton.mpr fun f hf _ => ⟨ch.statement.sql, hfault f hf, rfl⟩

/-- What is handed over through a new cursor is the statement. -/
theorem surfacing_of_sent {text : Option String} {call : Call} {more : List Call}
    (htext : call.text? = some ch.driverText)
    (hmore : ∀ call ∈ more, call.text? = none ∧ call.isStatement = false)
    (hfault : ∀ f, Exchange.fault? { place := ch.ready.trace.length, call
                                     answer := ch.ready.nextResponse, behind := more } = some f →
      f.kind.isLibrary = false → o = some (ch.statement.failed (.fault f))) :
    ch.Surfacing text (ch.opening ++ call :: more) cursorOpen o := by
  have hlast : lastText text (ch.opening ++ call :: more) = some ch.driverText := by
    rw [lastText_append, lastText_cons htext fun c hc => (hmore c hc).1]
  refine ⟨fun _ => hlast, ?_⟩
  rw [exchanges_sent htext fun c hc => (hmore c hc).2, hlast]
  refine List.forall_mem_singleton.mpr fun f hf hforeign =>
    ⟨ch.statement.sql, hfault f hf hforeign, ?_⟩
  rw [Call.about, htext]
  rfl

/-- Whatever ends a use, what failed at its statement leaves under the statement. -/
theorem Effect.surfacing (h : ch.Effect reads calls o cursorOpen) {text : Option String}
    (htext : ch.statement.cursor.isSome = true → text = some ch.driverText) :
    ch.Surfacing text calls cursorOpen o := by
  have hrollback : ∀ call ∈ ch.connection.rollbackCalls,
      call.text? = none ∧ call.isStatement = false := by
    intro call hcall
    rw [Connection.eq_of_mem_rollbackCalls hcall]
    exact ⟨rfl, rfl⟩
  cases h with
  | idle => exact surfacing_of_forall (by simp) htext
  | closed => exact surfacing_of_forall (by simp [Call.handlesCursor]) (by simp)
  | unopened => exact surfacing_of_forall ch.handlesCursor_opening (by simp)
  | unanswered hopen hf =>
      refine surfacing_of_question (htext hopen) (by simp) fun f hfault => ?_
      simp only [Exchange.fault?, hf, Option.some.injEq] at hfault
      rw [hfault]
  | asked hopen hf ho =>
      refine surfacing_of_question (htext hopen) (by simp [Call.text?, Call.isStatement])
        fun f hfault => ho f ?_
      simpa [Exchange.fault?, hf, Call.fetches] using hfault
  | refused hcall hopen hf =>
      refine surfacing_of_sent hcall hrollback fun f hfault hforeign => ?_
      simp only [Exchange.fault?, hf, Option.some.injEq] at hfault
      rw [Statement.failedBy, hfault, if_neg (by simp [Failure.isLibrary, hforeign])]
  | @unfetched call f hcall hfetch =>
      refine surfacing_of_sent hcall.text?_eq (List.forall_mem_cons.mpr
        ⟨⟨rfl, rfl⟩, hrollback⟩) fun f' hfault _ => ?_
      have hsame : f = f' := by
        simpa [Exchange.fault?, hcall.fault_eq, hfetch, Call.fetches] using hfault
      rw [hsame]
  | uncounted hcall =>
      refine surfacing_of_sent hcall.text?_eq (by simp) fun f hfault _ => ?_
      simp [Exchange.fault?, hcall.fault_eq] at hfault
  | done fetched hcall hfetch =>
      refine surfacing_of_sent hcall.text?_eq (fun call hmem => ?_) fun f hfault _ => ?_
      · rcases eq_of_mem_finishing ch hmem with rfl | rfl <;> exact ⟨rfl, rfl⟩
      · rw [fault?_finished hcall hfetch] at hfault
        contradiction

/-- A use that failed nowhere is followed by another one. -/
theorem Surfacing.append {ch' : Channel} {more : List Call} {text : Option String} {isOpen : Bool}
    (h : ch.Surfacing text calls cursorOpen none) (hheard : ch.Heard calls ch')
    (hleads : LeadsIn more) (h' : ch'.Surfacing (lastText text calls) more isOpen o) :
    ch.Surfacing text (calls ++ more) isOpen o := by
  have htext : ch'.driverText = ch.driverText := by
    rw [driverText, driverText, hheard.connection.dialect_eq, hheard.sql_eq]
  obtain ⟨hlast, hsurfaces⟩ := h'
  rw [htext] at hlast
  rw [hheard.connection.driver_eq, hheard.operation_eq, hheard.connection.dialect_eq] at hsurfaces
  refine ⟨fun hopen => ?_, ?_⟩
  · rw [lastText_append]
    exact hlast hopen
  · rw [lastText_append]
    exact Driver.forall_exchanges_append (fun x hx => hx.extended hleads)
      (fun x hx => (h.surfaces x hx).of_none _) hsurfaces

end Channel

/-! ## Failures of an operation -/

namespace Connection

variable {operation : String}

/-- What failed at a statement of the operation left under the operation, where no cursor refuses to be
closed. -/
def Surfaces (operation : String) (c c' : Connection) (o : Option Failure) : Prop :=
  ∃ calls, c.Heard calls c' ∧ LeadsIn calls ∧ (c.driver.waiting? .closeCursor = none →
    ∀ x ∈ c.driver.exchanges calls, x.Surfaces (lastText none calls) operation c.dialect o)

instance : Passage (Surfaces operation) where
  rest c _ := ⟨[], .rest c, leadsIn_nil, fun _ => by simp [Driver.exchanges]⟩
  trans := by
    rintro c c' c'' o ⟨calls, hheard, hleads, hcalls⟩ ⟨more, hheard', hleads', hmore⟩
    refine ⟨calls ++ more, hheard.trans hheard', hleads.append hleads', fun hclose => ?_⟩
    rw [hheard.driver_eq, hheard.dialect_eq] at hmore
    apply Driver.forall_exchanges_append
    · exact fun x hx => hx.extended hleads'
    · exact fun x hx => (hcalls hclose x hx).of_none _
    · intro x hx
      rw [lastText_append]
      exact (hmore (Driver.waiting?_hearAll_eq_none hclose calls) x hx).later _

end Connection

namespace Channel

/-- What failed at the channel's statement left under the statement. -/
def Surfaces (ch ch' : Channel) (o : Option Failure) : Prop :=
  ∃ calls, ch.Heard calls ch' ∧ LeadsIn calls ∧
    ∀ text, (ch.statement.cursor.isSome = true → text = some ch.driverText) →
      ch.Surfacing text calls ch'.statement.cursor.isSome o

instance : Passage Surfaces where
  rest ch _ := ⟨[], .rest ch, leadsIn_nil, fun _ htext => surfacing_of_forall (by simp) htext⟩
  trans := by
    rintro ch ch' ch'' o ⟨calls, hheard, hleads, hcalls⟩ ⟨more, hheard', hleads', hmore⟩
    refine ⟨calls ++ more, hheard.trans hheard', hleads.append hleads', fun text htext => ?_⟩
    have hfirst := hcalls text htext
    refine hfirst.append hheard hleads' (hmore _ fun hopen => ?_)
    rw [hfirst.last hopen, driverText, driverText, hheard.connection.dialect_eq, hheard.sql_eq]

end Channel

theorem Connection.conduct_surfaces (operation : String) (admits : Bool → Prop) :
    Statement.Conduct operation admits Channel.Surfaces (Surfaces operation) where
  aside h := ⟨[], h, leadsIn_nil, fun _ => by simp [Driver.exchanges]⟩
  used _ _ hheard heffect := ⟨_, hheard, heffect.leadsIn, fun _ htext => heffect.surfacing htext⟩
  closed := by
    rintro c sql ch o ⟨calls, hheard, hleads, hcalls⟩
    have hclosing := ch.handlesCursor_closing
    refine ⟨calls ++ ch.closing, hheard.connection.trans ⟨rfl, rfl, rfl⟩,
      hleads.append (leadsIn_of_handlesCursor hclosing), fun hclose => ?_⟩
    have haccepted : ch.closeRefusal? = none := by
      have hwaiting : ch.connection.driver.refusal? .closeCursor = none := by
        rw [hheard.connection.driver_eq]
        exact Driver.waiting?_hearAll_eq_none hclose calls
      rw [Channel.closeRefusal?, hwaiting, ite_self]
    rw [haccepted, lastText_append, lastText_of_handlesCursor hclosing]
    apply Driver.forall_exchanges_append
    · exact fun x hx => hx.extended (leadsIn_of_handlesCursor hclosing)
    · exact (hcalls none (by simp)).surfaces
    · rw [Driver.exchanges_eq_nil fun call hcall =>
        Call.isStatement_of_handlesCursor (hclosing call hcall)]
      simp

namespace Operation

variable {κ : Type} [DecidableEq κ]

/-- A failure at a statement, at the fetching of its rows or at the question for its key ends the
operation and names it, with the text of the statement and the cause: whichever rollbacks are refused
meanwhile, where no cursor refuses to be closed. -/
theorem failures_surface (op : Operation κ) (p : Session × EntityStore κ)
    (hclose : p.1.connection.driver.waiting? .closeCursor = none) :
    let r := op.action.perform p
    let calls := r.2.1.connection.driver.trace.drop p.1.connection.driver.trace.length
    ∀ x ∈ p.1.connection.driver.exchanges calls, ∀ f, x.fault? = some f →
      f.kind.isLibrary = false → ∃ sql,
        r.1 = .error (.execution op.operation (some sql) (some (.fault f))) ∧
          x.call.about (lastText none calls) = some (p.1.connection.dialect.standardize sql) := by
  intro r calls x hx f hf hforeign
  obtain ⟨sent, hheard, -, hsent⟩ :=
    (op.passes (Connection.conduct_surfaces op.operation op.Admits) p).1
  have hcalls : calls = sent := by
    have htrace : r.2.1.connection.driver.trace = p.1.connection.driver.trace ++ sent := by
      rw [← Driver.trace_hearAll, ← hheard.driver_eq]
    simp [calls, htrace]
  rw [hcalls] at hx ⊢
  obtain ⟨sql, hfailure, habout⟩ := hsent hclose x hx f hf hforeign
  exact ⟨sql, failureOf_eq_some hfailure, habout⟩

/-- The driver refuses the question for the key of an insertion: the failure is one of the insertion. -/
theorem failures_surface_question :
    let p : Session × EntityStore Nat := (refusingSession .sqlServer, TableMap.itemStore)
    let r := (insert 0).action.perform p
    let calls := r.2.1.connection.driver.trace.drop p.1.connection.driver.trace.length
    ∃ x ∈ p.1.connection.driver.exchanges calls, x.call = .question ∧ ∃ sql,
      r.1 = .error (.execution TableMap.insertOperation (some sql)
        (some (.fault Session.lostConnection))) ∧
      x.call.about (lastText none calls) = some (Dialect.sqlServer.standardize sql) := by
  have hquestion :
      let p : Session × EntityStore Nat := (refusingSession .sqlServer, TableMap.itemStore)
      let r := (insert 0).action.perform p
      ∃ x ∈ p.1.connection.driver.exchanges
          (r.2.1.connection.driver.trace.drop p.1.connection.driver.trace.length),
        x.call = .question ∧ x.fault? = some Session.lostConnection := by
    decide +kernel
  obtain ⟨x, hx, hcall, hfault⟩ := hquestion
  exact ⟨x, hx, hcall, failures_surface (insert 0) _ rfl x hx _ hfault rfl⟩

/-- Where the commit behind a statement is refused, what the driver raised leaves as it is. -/
theorem unnamed_refused_commit :
    let r := Session.emptyLog.action.perform (Session.uncommittedSession, TableMap.itemStore)
    Session.lostConnection.kind.isLibrary = false ∧
      r.1 = .error (.fault Session.lostConnection) ∧
      ∀ operation sql cause, r.1 ≠ .error (.execution operation sql cause) := by
  have hraised : (Session.emptyLog.action.perform
      (Session.uncommittedSession, TableMap.itemStore)).1 =
        .error (.fault Session.lostConnection) := rfl
  refine ⟨rfl, hraised, fun operation sql cause h => ?_⟩
  rw [hraised] at h
  cases h

end Operation

end RelationalMapper
