import RelationalMapper.Proofs.Channel.Exchange
import RelationalMapper.Proofs.Session.Durability

/-! # Statements that are settled one by one

Outside a transaction, each statement is settled before the next one is sent: one that failed is rolled
back, and one that changes something is committed. The question for the last key belongs to the
insertion in front of it, which was committed before. -/

namespace RelationalMapper

open RelationalMapper.Action

/-! ## One statement -/

namespace Exchange

/-- The statement is settled by the calls behind it. -/
structure Settled (reads : Bool) (x : Exchange) : Prop where
  undone : x.call ≠ .question → x.fault?.isSome = true → x.settling = [.rollback]
  kept : x.call ≠ .question → x.fault? = none → x.answer.rowCount.isSome = true →
    x.settling = if reads then [] else [.commit]
  aside : x.call = .question → x.settling = []

variable {x : Exchange} {reads : Bool}

theorem settled_of_question (hcall : x.call = .question) (hsettling : x.settling = []) :
    x.Settled reads :=
  ⟨fun h => absurd hcall h, fun h => absurd hcall h, fun _ => hsettling⟩

theorem settled_of_fault (hcall : x.call ≠ .question) (hfault : x.fault?.isSome = true)
    (hsettling : x.settling = [.rollback]) : x.Settled reads := by
  refine ⟨fun _ _ => hsettling, fun _ hnone => ?_, fun h => absurd h hcall⟩
  rw [hnone] at hfault
  contradiction

theorem settled_of_run (hcall : x.call ≠ .question) (hfault : x.fault? = none)
    (hsettling : x.answer.rowCount.isSome = true → x.settling = if reads then [] else [.commit]) :
    x.Settled reads := by
  refine ⟨fun _ hsome => ?_, fun _ _ => hsettling, fun h => absurd h hcall⟩
  rw [hfault] at hsome
  contradiction

/-- What leads in to the next statement settles nothing. -/
theorem Settled.extended (h : x.Settled reads) {more : List Call}
    (hmore : ∀ call ∈ more, call.handlesCursor = true) : (x.extended more).Settled reads := by
  have hfault := fault?_extended (x := x) hmore
  have hsettling := settling_extended (x := x) hmore
  refine ⟨?_, ?_, ?_⟩
  · rw [hfault, hsettling]
    exact h.undone
  · rw [hfault, hsettling]
    exact h.kept
  · rw [hsettling]
    exact h.aside

end Exchange

/-! ## The statements of a channel -/

namespace Channel

variable {ch : Channel} {calls : List Call} {reads cursorOpen : Bool} {o : Option Failure}

theorem ne_question_of_text? {call : Call} {text : String} (h : call.text? = some text) :
    call ≠ .question := by
  rintro rfl
  contradiction

/-- What a use sends outside a transaction is settled. -/
theorem Effect.settled (h : ch.Effect reads calls o cursorOpen)
    (hidle : ch.connection.inTransaction = false) :
    ∀ x ∈ ch.connection.driver.exchanges calls, x.Settled reads := by
  have hrollback : ch.connection.rollbackCalls = [.rollback] := by
    simp [Connection.rollbackCalls, hidle]
  have hcommit : ch.connection.commitCalls = [.commit] := by
    simp [Connection.commitCalls, hidle]
  cases h with
  | idle => simp [Driver.exchanges]
  | closed => simp [Driver.exchanges, Call.isStatement]
  | unopened =>
      rw [Driver.exchanges_eq_nil fun _ h =>
        Call.isStatement_of_handlesCursor (ch.handlesCursor_opening _ h)]
      simp
  | unanswered =>
      rw [Driver.exchanges_of_statement rfl]
      exact List.forall_mem_singleton.mpr (Exchange.settled_of_question rfl rfl)
  | asked =>
      rw [Driver.exchanges_of_statement rfl]
      exact List.forall_mem_singleton.mpr (Exchange.settled_of_question rfl rfl)
  | refused htext hopen hf =>
      rw [hrollback, exchanges_sent htext (by simp [Call.isStatement])]
      refine List.forall_mem_singleton.mpr
        (Exchange.settled_of_fault (ne_question_of_text? htext) ?_ rfl)
      simp [Exchange.fault?, hf]
  | unfetched hcall hfetch =>
      rw [hrollback, exchanges_sent hcall.text?_eq (by simp [Call.isStatement])]
      refine List.forall_mem_singleton.mpr
        (Exchange.settled_of_fault (ne_question_of_text? hcall.text?_eq) ?_ rfl)
      simp [Exchange.fault?, hcall.fault_eq, hfetch, Call.fetches]
  | uncounted hcall hcount =>
      rw [exchanges_sent hcall.text?_eq (by simp)]
      refine List.forall_mem_singleton.mpr
        (Exchange.settled_of_run (ne_question_of_text? hcall.text?_eq) ?_ fun hsome => ?_)
      · simp [Exchange.fault?, hcall.fault_eq]
      · rw [hcount] at hsome
        contradiction
  | done fetched hcall hfetch =>
      rw [exchanges_sent hcall.text?_eq fun call hmem => by
        rcases eq_of_mem_finishing ch hmem with rfl | rfl <;> rfl]
      refine List.forall_mem_singleton.mpr (Exchange.settled_of_run
        (ne_question_of_text? hcall.text?_eq) (fault?_finished hcall hfetch) fun _ => ?_)
      cases fetched <;> cases reads <;>
        simp [Exchange.settling, finishing, fetching, hcommit, Call.settles]

end Channel

/-! ## The statements of an operation -/

namespace Driver

/-- The statements among the calls are settled, and what leads in to the first one settles nothing. -/
structure SettlesEach (d : Driver) (idle : Prop) (admits : Bool → Prop) (calls : List Call) : Prop where
  leadsIn : LeadsIn calls
  settled : idle → ∀ x ∈ d.exchanges calls, ∃ reads, admits reads ∧ x.Settled reads

variable {d : Driver} {idle : Prop} {admits : Bool → Prop} {calls more : List Call}

theorem settlesEach_of_forall (h : ∀ call ∈ calls, call.handlesCursor = true) :
    d.SettlesEach idle admits calls := by
  refine ⟨leadsIn_of_handlesCursor h, fun _ => ?_⟩
  rw [exchanges_eq_nil fun call hcall => Call.isStatement_of_handlesCursor (h call hcall)]
  simp

theorem SettlesEach.append (h : d.SettlesEach idle admits calls)
    (h' : (d.hearAll calls).SettlesEach idle admits more) :
    d.SettlesEach idle admits (calls ++ more) := by
  refine ⟨h.leadsIn.append h'.leadsIn, fun hidle => ?_⟩
  apply forall_exchanges_append
  · rintro x ⟨reads, hreads, hx⟩
    exact ⟨reads, hreads, hx.extended h'.leadsIn⟩
  · exact h.settled hidle
  · exact h'.settled hidle

end Driver

namespace Connection

variable {admits : Bool → Prop}

/-- What was sent between two connections is settled, outside a transaction. -/
def SettlesEach (admits : Bool → Prop) (c c' : Connection) (_ : Option Failure) : Prop :=
  ∃ calls, c.Heard calls c' ∧ c.driver.SettlesEach (c.inTransaction = false) admits calls

instance : Passage (SettlesEach admits) where
  rest c _ := ⟨[], .rest c, Driver.settlesEach_of_forall (by simp)⟩
  trans := by
    rintro c c' c'' o ⟨calls, hheard, hcalls⟩ ⟨more, hheard', hmore⟩
    rw [hheard.inTransaction_eq, hheard.driver_eq] at hmore
    exact ⟨calls ++ more, hheard.trans hheard', hcalls.append hmore⟩

theorem conduct_settlesEach (operation : String) (admits : Bool → Prop) :
    Statement.Conduct operation admits (Along (SettlesEach admits) Channel.connection)
      (SettlesEach admits) where
  aside h := ⟨[], h, Driver.settlesEach_of_forall (by simp)⟩
  used _ hadmits hheard heffect := ⟨_, hheard.connection, heffect.leadsIn, fun hidle x hx =>
    ⟨_, hadmits, heffect.settled hidle x hx⟩⟩
  closed {c sql ch o} h := by
    have hclosing : SettlesEach admits ch.connection (ch.connection.hearAll ch.closing)
        (ch.closeRefusal?.elim o fun f => some (.fault f)) := by
      exact ⟨ch.closing, ⟨rfl, rfl, rfl⟩, Driver.settlesEach_of_forall ch.handlesCursor_closing⟩
    exact Passage.trans h hclosing

end Connection

namespace Operation

theorem Admits.eq {κ : Type} {op : Operation κ} {reads r : Bool} (h : op.Admits r)
    (hreads : op.reads? = some reads) : r = reads := by
  rcases h with hnone | hsome
  · rw [hnone] at hreads
    contradiction
  · exact Option.some.inj (hsome.symm.trans hreads)

variable {κ : Type} [DecidableEq κ]

/-- One operation after the other, whatever becomes of them. -/
def run (ops : List (Operation κ)) (p : Session × EntityStore κ) : Session × EntityStore κ :=
  ops.foldl (fun p op => (op.action.perform p).2) p

theorem settles (op : Operation κ) (p : Session × EntityStore κ) :
    ∃ calls, p.1.connection.Heard calls (op.action.perform p).2.1.connection ∧
      p.1.connection.driver.SettlesEach (p.1.connection.inTransaction = false) op.Admits calls :=
  (op.passes (Connection.conduct_settlesEach op.operation op.Admits) p).1

/-- What operations do in front of their first statement settles nothing. -/
theorem leadsIn_run (ops : List (Operation κ)) (p : Session × EntityStore κ) :
    ∃ calls, p.1.connection.Heard calls (run ops p).1.connection ∧ LeadsIn calls := by
  induction ops generalizing p with
  | nil => exact ⟨[], .rest _, leadsIn_nil⟩
  | cons op ops ih =>
      obtain ⟨calls, hheard, hcalls⟩ := op.settles p
      obtain ⟨more, hheard', hmore⟩ := ih (op.action.perform p).2
      exact ⟨calls ++ more, hheard.trans hheard', hcalls.leadsIn.append hmore⟩

/-- Each statement that an operation sends is settled before the next one is sent, whichever operations
come before and behind: what fails is rolled back and not committed, what runs is committed and not
rolled back unless the operation only reads, and the question for the last key is followed by neither. -/
theorem settles_each (op : Operation κ) {reads : Bool} (hreads : op.reads? = some reads)
    {p : Session × EntityStore κ} (hidle : p.1.connection.inTransaction = false)
    (before behind : List (Operation κ)) :
    let p₁ := run before p
    let p₂ := (op.action.perform p₁).2
    let p₃ := run behind p₂
    ∀ x ∈ p.1.connection.driver.exchangesUpTo p₃.1.connection.driver,
      p₁.1.connection.driver.trace.length ≤ x.place →
        x.place < p₂.1.connection.driver.trace.length → x.Settled reads := by
  intro p₁ p₂ p₃ x hx hfrom hto
  obtain ⟨first, hfirst, -⟩ := leadsIn_run before p
  obtain ⟨calls, hcalls, hsettles⟩ := op.settles p₁
  obtain ⟨more, hmore, hleads⟩ := leadsIn_run behind p₂
  have hlast : p₃.1.connection.driver =
      p.1.connection.driver.hearAll (first ++ (calls ++ more)) :=
    (hfirst.trans (hcalls.trans hmore)).driver_eq
  rw [hlast, Driver.exchangesUpTo_hearAll] at hx
  rcases Driver.mem_exchanges_append hx with ⟨y, hy, hsame⟩ | hx
  · -- the statement was sent before
    have hplace : x.place = y.place := by rcases hsame with rfl | rfl <;> rfl
    have hbound := (Driver.place_of_mem_exchanges hy).2
    rw [hfirst.driver_eq, Driver.trace_hearAll, List.length_append] at hfrom
    omega
  · rw [← hfirst.driver_eq] at hx
    rcases Driver.mem_exchanges_append hx with ⟨y, hy, hsame⟩ | hx
    · obtain ⟨r, hr, hy⟩ := hsettles.settled (hfirst.inTransaction_eq.trans hidle) y hy
      obtain rfl : r = reads := hr.eq hreads
      rcases hsame with rfl | rfl
      · exact hy
      · exact hy.extended hleads
    · -- the statement was sent behind
      have hbound := (Driver.place_of_mem_exchanges hx).1
      rw [← hcalls.driver_eq] at hbound
      exact absurd hto (Nat.not_lt.mpr hbound)

/-- A session whose driver refuses the second statement. -/
def refusingSession (d : Dialect) : Session :=
  { connection :=
      { dialect := d, driver := { responses := [{}, { fault := some Session.lostConnection }] } } }

/-- Of three statements the second one fails: it is rolled back, while the third one is sent. -/
theorem settles_each_refused :
    let p : Session × EntityStore Nat := (refusingSession .sqlite, TableMap.itemStore)
    let p₁ := run [Session.emptyLog] p
    let p₂ := (Session.emptyLog.action.perform p₁).2
    let p₃ := run [Session.emptyLog] p₂
    let exchanges := p.1.connection.driver.exchangesUpTo p₃.1.connection.driver
    exchanges.map (·.settling) = [[.commit], [.rollback], [.commit]] ∧
      ∀ x ∈ exchanges, p₁.1.connection.driver.trace.length ≤ x.place →
        x.place < p₂.1.connection.driver.trace.length → x.Settled false :=
  ⟨by decide +kernel, settles_each Session.emptyLog rfl rfl _ _⟩

/-- The question for the last key is a statement that fails without being rolled back, and a statement
that is run for what it changes is committed although its operation has the name of a query. -/
theorem unsettled_question :
    (let p : Session × EntityStore Nat := (refusingSession .sqlServer, TableMap.itemStore)
      let p' := ((insert 0).action.perform p).2
      ∃ x ∈ p.1.connection.driver.exchangesUpTo p'.1.connection.driver,
        x.fault?.isSome = true ∧ x.settling ≠ [.rollback]) ∧
    (let p : Session × EntityStore Nat := (refusingSession .sqlite, TableMap.itemStore)
      let op : Operation Nat := .execute "SELECT 1" [] Statement.reading
      let p' := (op.action.perform p).2
      op.operation = Statement.reading ∧ (op.action.perform p).1.isOk = true ∧
        ∃ x ∈ p.1.connection.driver.exchangesUpTo p'.1.connection.driver,
          x.fault? = none ∧ x.settling ≠ []) := by
  decide +kernel

end Operation

end RelationalMapper
