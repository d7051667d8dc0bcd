import RelationalMapper.Proofs.Session.Settlement

/-! # Operations of which nothing is kept

Outside a transaction each statement is kept or discarded on its own: one that fails is discarded before
anything else is sent, and no later commit makes it durable. One that runs is durable before its keys
are asked for, so that a failure behind it comes too late to discard it. -/

namespace RelationalMapper

open RelationalMapper.Action

/-! ## What a ledger holds -/

namespace Ledger

/-- The statement at a place is pending or durable. -/
def Holds (l : Ledger) (place : Nat) : Prop := place ∈ l.pending ∨ place ∈ l.durable

variable {l : Ledger} {d : Driver} {place : Nat}

theorem holds_enter {n : Nat} {c : Call} {refused : Bool} (h : (l.enter n c refused).Holds place) :
    l.Holds place ∨ c.isStatement = true ∧ place = n := by
  have htaken {c : Call} (hc : c.isStatement = true) :
      Holds { l with pending := l.pending ++ [n] } place →
        l.Holds place ∨ c.isStatement = true ∧ place = n := by
    rintro (hpending | hdurable)
    · rcases List.mem_append.mp hpending with hpending | hnew
      · exact .inl (.inl hpending)
      · exact .inr ⟨hc, List.mem_singleton.mp hnew⟩
    · exact .inl (.inr hdurable)
  have hkept : Holds ⟨[], l.durable ++ l.pending⟩ place → l.Holds place := by
    rintro (hpending | hdurable)
    · contradiction
    · exact (List.mem_append.mp hdurable).symm
  have hdiscarded : Holds { l with pending := [] } place → l.Holds place := by
    rintro (hpending | hdurable)
    · contradiction
    · exact .inr hdurable
  cases refused with
  | true => exact .inl h
  | false =>
      cases c with
      | execute _ _ => exact htaken rfl h
      | executeMany _ _ => exact htaken rfl h
      | commit => exact .inl (hkept h)
      | rollback => exact .inl (hdiscarded h)
      | _ => exact .inl h

/-- What is held after some calls was held before, or it was sent by one of them. -/
theorem holds_afterCalls {calls : List Call} (h : (l.afterCalls d calls).Holds place) :
    l.Holds place ∨ ∃ x ∈ d.exchanges calls, x.place = place := by
  induction calls generalizing l d with
  | nil => exact .inl h
  | cons c calls ih =>
      rcases ih h with hfirst | ⟨x, hx, hplace⟩
      · rcases holds_enter hfirst with hold | ⟨hc, hnew⟩
        · exact .inl hold
        · rw [Driver.exchanges_of_statement hc]
          exact .inr ⟨_, List.mem_cons_self, hnew.symm⟩
      · refine .inr ⟨x, ?_, hplace⟩
        by_cases hc : c.isStatement = true
        · rw [Driver.exchanges_of_statement hc]
          exact List.mem_cons_of_mem _ hx
        · rwa [Driver.exchanges_cons (by simpa using hc)]

/-- Everything in the ledger stands in the trace of the driver. -/
def Within (l : Ledger) (d : Driver) : Prop := ∀ place, l.Holds place → place < d.trace.length

theorem within_empty (d : Driver) : ({} : Ledger).Within d := by
  rintro place (h | h) <;> contradiction

theorem Within.afterCalls (h : l.Within d) (calls : List Call) :
    (l.afterCalls d calls).Within (d.hearAll calls) := by
  intro place hplace
  rw [Driver.trace_hearAll, List.length_append]
  rcases holds_afterCalls hplace with hold | ⟨x, hx, rfl⟩
  · have hbound := h place hold
    omega
  · exact (Driver.place_of_mem_exchanges hx).2

/-! ## Statements that are settled -/

/-- What is durable stays durable. -/
theorem mem_durable_afterCalls (h : place ∈ l.durable) (calls : List Call) :
    place ∈ (l.afterCalls d calls).durable := by
  induction calls generalizing l d with
  | nil => exact h
  | cons c calls ih =>
      apply ih
      unfold enter
      split
      · exact h
      · split
        all_goals first | exact h | exact List.mem_append_left _ h

/-- What is pending stays pending until something is settled. -/
theorem mem_pending_afterCalls (h : place ∈ l.pending) {calls : List Call}
    (hcalls : ∀ call ∈ calls, call.settles = false) :
    place ∈ (l.afterCalls d calls).pending := by
  induction calls generalizing l d with
  | nil => exact h
  | cons c calls ih =>
      obtain ⟨hc, hcalls⟩ := List.forall_mem_cons.mp hcalls
      apply ih _ hcalls
      unfold enter
      split
      · exact h
      · split
        all_goals first | exact h | exact List.mem_append_left _ h | contradiction

variable {x : Exchange} {calls : List Call}

/-- Behind a statement that is settled once stands the call that settles it. -/
theorem exists_settling {c : Call} (hx : x ∈ d.exchanges calls) (hsettling : x.settling = [c]) :
    ∃ front near rest, calls = front ++ x.call :: (near ++ c :: rest) ∧
      x.call.isStatement = true ∧ (∀ call ∈ near, call.settles = false) ∧
      x.place = (d.hearAll front).trace.length ∧ x.answer = (d.hearAll front).nextResponse := by
  obtain ⟨front, rest, hcalls, hstatement, hplace, hanswer⟩ := Driver.of_mem_exchanges hx
  obtain ⟨near, far, hbehind, hnear, -, -⟩ := List.filter_eq_cons_iff.mp hsettling
  refine ⟨front, near, far ++ rest, ?_, hstatement, fun call hcall => ?_, hplace, hanswer⟩
  · rw [hcalls, hbehind, List.append_assoc, List.cons_append]
  · simpa using hnear call hcall

/-- A statement that is rolled back is gone, whatever is called later. -/
theorem lacks_of_undone (hl : l.Within d) (hrollback : d.waiting? .rollback = none)
    (hx : x ∈ d.exchanges calls) (hsettling : x.settling = [.rollback]) (more : List Call) :
    (l.afterCalls d (calls ++ more)).Lacks x.place (x.place + 1) := by
  obtain ⟨front, near, rest, hcalls, hstatement, hnear, hplace, -⟩ := exists_settling hx hsettling
  have hdurable : ∀ place ∈ (l.afterCalls d (front ++ x.call :: near)).durable, place < x.place := by
    rw [afterCalls_append, durable_afterCalls]
    · rw [hplace]
      exact fun place h => hl.afterCalls front place (.inr h)
    · refine List.forall_mem_cons.mpr ⟨?_, fun call hcall => Call.ne_commit (hnear call hcall)⟩
      rintro hcommit
      rw [hcommit] at hstatement
      contradiction
  have hrefusal : (d.hearAll (front ++ x.call :: near)).refusal? .rollback = none :=
    Driver.waiting?_hearAll_eq_none hrollback _
  have hgone := lacks_enter_rollback (x.place + 1) hdurable hrefusal
  have hall : calls ++ more = (front ++ x.call :: near) ++ .rollback :: (rest ++ more) := by
    simp [hcalls]
  rw [hall, afterCalls_append]
  refine hgone.afterCalls ?_ _
  simp only [hplace, Driver.trace_hear, Driver.trace_hearAll, List.length_append, List.length_cons]
  omega

/-- A statement that ran is durable once it is committed. -/
theorem mem_durable_of_kept (hfault : x.answer.fault = none)
    (hcommit : d.waiting? .commit = none) (hx : x ∈ d.exchanges calls)
    (hsettling : x.settling = [.commit]) : x.place ∈ (l.afterCalls d calls).durable := by
  obtain ⟨front, near, rest, hcalls, hstatement, hnear, hplace, hanswer⟩ :=
    exists_settling hx hsettling
  have htaken : x.place ∈ (l.afterCalls d (front ++ [x.call])).pending := by
    have hrefusal : ((d.hearAll front).refusal? x.call).isSome = false := by
      rw [Driver.refusal?, if_pos hstatement, ← hanswer, hfault]
      rfl
    rw [afterCalls_append]
    change x.place ∈ ((l.afterCalls d front).enter _ _ _).pending
    rw [hrefusal, ← hplace]
    generalize x.call = call at hstatement
    cases call <;> first | contradiction | exact List.mem_append_right _ List.mem_cons_self
  have hpending := mem_pending_afterCalls htaken (d := d.hearAll (front ++ [x.call])) hnear
  rw [← afterCalls_append] at hpending
  have hall : calls = (front ++ [x.call] ++ near) ++ .commit :: rest := by
    simp [hcalls]
  have haccepted : (d.hearAll (front ++ [x.call] ++ near)).refusal? .commit = none :=
    Driver.waiting?_hearAll_eq_none hcommit _
  rw [hall, afterCalls_append, afterCalls, haccepted]
  exact mem_durable_afterCalls (List.mem_append_right _ hpending) rest

end Ledger

/-! ## What becomes of an operation -/

namespace Operation

variable {κ : Type} [DecidableEq κ]

/-- Of an operation all of whose statements failed nothing becomes durable, whatever the session does
later; a statement that ran is durable when the operation ends, however it ends. -/
theorem keeps_what_ran (op : Operation κ) (hreads : op.reads? = some false) {s : Session}
    (hidle : s.connection.inTransaction = false)
    (hrollback : s.connection.driver.waiting? .rollback = none) {l : Ledger}
    (hl : l.Within s.connection.driver) (store : EntityStore κ) :
    let p := (op.action.perform (s, store)).2
    let sent := s.connection.driver.exchangesUpTo p.1.connection.driver
    ((∀ x ∈ sent, x.call ≠ .question ∧ x.fault?.isSome = true) →
        ∀ steps, Session.Unkept l s p.1 (Step.run steps p).1) ∧
      ∀ x ∈ sent, x.call ≠ .question → x.fault? = none → x.answer.rowCount.isSome = true →
        s.connection.driver.waiting? .commit = none →
          x.place ∈ (l.upTo s.connection.driver p.1.connection.driver).durable := by
  intro p sent
  obtain ⟨calls, hheard, hsettles⟩ := op.settles (s, store)
  have hdriver : p.1.connection.driver = s.connection.driver.hearAll calls := hheard.driver_eq
  have hsent : sent = s.connection.driver.exchanges calls := by
    rw [← Driver.exchangesUpTo_hearAll, ← hdriver]
  have hsettled : ∀ x ∈ sent, x.Settled false := by
    intro x hx
    obtain ⟨reads, hadmits, hx⟩ := hsettles.settled hidle x (hsent ▸ hx)
    rwa [hadmits.eq hreads] at hx
  refine ⟨fun hfailed steps => ?_, fun x hx hcall hfault hcount hcommit => ?_⟩
  · obtain ⟨more, hmore⟩ := Step.hears_run steps p
    intro place hplace
    rw [hmore, hdriver, ← Driver.hearAll_append, Ledger.upTo_hearAll] at hplace
    rcases Ledger.holds_afterCalls (.inr hplace) with hold | ⟨x, hx, rfl⟩
    · exact .inl (hl place hold)
    · rcases Driver.mem_exchanges_append hx with ⟨y, hy, hsame⟩ | hx
      · -- it was sent by the operation, and so it is gone
        have hy' : y ∈ sent := hsent ▸ hy
        obtain ⟨hcall, hfault⟩ := hfailed y hy'
        have hgone := Ledger.lacks_of_undone hl hrollback hy ((hsettled y hy').undone hcall hfault)
          more
        have hxy : x.place = y.place := by rcases hsame with rfl | rfl <;> rfl
        have hnot := hgone.durable _ hplace
        omega
      · rw [← hdriver] at hx
        exact .inr (Driver.place_of_mem_exchanges hx).1
  · rw [hdriver, Ledger.upTo_hearAll]
    apply Ledger.mem_durable_of_kept ?_ hcommit (hsent ▸ hx) ((hsettled x hx).kept hcall hfault hcount)
    unfold Exchange.fault? at hfault
    split at hfault
    · contradiction
    · assumption

/-- A session whose driver takes an insertion and does not give its key. -/
def withholdingSession : Session :=
  { connection :=
      { dialect := .postgres
        driver := { responses := [{ columns := some ["id"]
                                    fetchFault := some Session.lostConnection }] } } }

/-- The insertion was taken, but its key cannot be fetched: it is discarded, and only the statement of a
later operation becomes durable. -/
theorem keeps_what_ran_withheld :
    let p := ((insert 0).action.perform (withholdingSession, TableMap.itemStore)).2
    let p' := Step.run [.operation Session.emptyLog] p
    Session.Unkept {} withholdingSession p.1 p'.1 ∧
      (Ledger.upTo {} withholdingSession.connection.driver p'.1.connection.driver).durable.length
        = 1 :=
  ⟨(keeps_what_ran (.insert 0) rfl rfl rfl (Ledger.within_empty _) _).1 (by decide +kernel) _,
    by decide +kernel⟩

/-- An insertion is committed before the question for its key, so that it is kept although the failure
of the question is the failure of the operation. -/
theorem kept_before_question :
    let p := (insert 0).action.perform (refusingSession .sqlServer, TableMap.itemStore)
    (refusingSession .sqlServer).connection.driver.waiting? .rollback = none ∧ p.1.isOk = false ∧
      ¬ Session.Unkept {} (refusingSession .sqlServer) p.2.1 p.2.1 := by
  decide +kernel

end Operation

end RelationalMapper
