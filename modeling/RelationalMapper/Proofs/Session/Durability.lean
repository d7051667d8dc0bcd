import RelationalMapper.Proofs.Channel.Ledger
import RelationalMapper.Proofs.Session.Block

/-! # Blocks that are not kept

A transaction whose block fails is rolled back, and whatever the session does afterwards, none of its
statements becomes durable. Where the commit on leaving is refused instead, the statements stay
pending: a rollback that comes next discards them, and any other commit keeps them. -/

namespace RelationalMapper

open RelationalMapper.Action

/-! ## What an application does -/

/-- What an application does with a session, failures included. -/
inductive Step (κ : Type) where
  | operation (op : Operation κ)
  | transaction (block : Block κ)
  | commit
  | rollback
  | close
  deriving Inhabited

namespace Step

variable {κ : Type} [DecidableEq κ]

def action : Step κ → Action (Session × EntityStore κ) Unit
  | operation op => op.action
  | transaction block => Session.transact block.run
  | commit => (Session.onConnection Connection.commit).first
  | rollback => (Session.onConnection Connection.rollback).first
  | close => (Session.onConnection Connection.close).first

/-- One step after the other, whatever becomes of them. -/
def run (steps : List (Step κ)) (p : Session × EntityStore κ) : Session × EntityStore κ :=
  steps.foldl (fun p step => (step.action.perform p).2) p

end Step

/-! ## What reaches the driver -/

section Hears

open Driver (Hears)

variable {α ε κ : Type} [DecidableEq κ]

theorem Connection.leads_onDriver_reach (point : FailurePoint) :
    Leads Hears Connection.driver (onDriver (Driver.reach point)) := by
  intro c
  have hreach := Driver.perform_reach_eq c.driver point
  rw [onDriver, perform_within, hreach]
  exact .of_hear _ _

theorem Connection.leads_release : Leads Hears Connection.driver release := by
  refine leads_get.bind fun c => ?_
  split
  · exact fun c => .of_hear c.driver .release
  · exact leads_onDriver_reach _

theorem Connection.leads_closeAll : Leads Hears Connection.driver Connection.close := by
  refine leads_get.bind fun c => ?_
  split
  · refine Leads.bind ?_ fun _ => leads_release.bind fun _ => leads_modify fun _ => refl_of Hears _
    refine leads_get.bind fun c => ?_
    split
    · exact leads_onDriver_reach _
    · exact leads_pure _
  · exact leads_pure _

theorem Session.leads_onConnectionFirst {a : Action Connection α}
    (h : Leads Hears Connection.driver a) :
    Leads Hears (·.1.connection.driver) ((onConnection a).first : Action (Session × ε) α) :=
  fun p => h p.1.connection

theorem Session.Advances.hears {s s' : Session} (h : s.Advances s') :
    s.connection.driver.Hears s'.connection.driver := by
  obtain ⟨calls, hcalls, -⟩ := h.connection.exists_calls
  exact ⟨calls, hcalls⟩

theorem Session.leads_onBlocks_leave (t : Transaction) (succeeded : Bool) :
    Leads Hears (·.connection.driver) (onBlocks (t.leave succeeded)) := by
  intro s
  rw [onBlocks, perform_within, Transaction.perform_leave]
  have hsettle := (Transaction.perform_settle succeeded s.connection).2
  simp only [hsettle]
  exact .of_hear _ _

theorem Session.leads_onBlocks_enter (t : Transaction) :
    Leads Hears (·.connection.driver) (onBlocks t.enter) := by
  refine Keeps.leads fun s => ?_
  simp only [onBlocks, Transaction.enter, perform_within, perform_bind, perform_get]
  split <;> rfl

theorem Session.leads_transact (block : Block κ) :
    Leads Hears (·.1.connection.driver) (transact block.run) := by
  have hbegin : Leads Hears (·.connection.driver) beginTransaction :=
    Leads.bind (leads_get.bind fun _ => leads_ofExcept _) fun t =>
      (leads_onBlocks_enter t).bind fun _ => leads_pure _
  have hblock : Leads Hears (·.1.connection.driver) block.run.outcome :=
    fun p => (block.leads_run p).hears
  have hfirst {β : Type} {a : Action Session β} (h : Leads Hears (·.connection.driver) a) :
      Leads Hears (·.1.connection.driver) (a.first : Action (Session × EntityStore κ) β) :=
    fun p => h p.1
  exact (hfirst hbegin).bind fun t => hblock.bind fun r =>
    (hfirst (leads_onBlocks_leave t r.isOk)).bind fun _ => leads_ofExcept _

theorem Step.leads (step : Step κ) : Leads Hears (·.1.connection.driver) step.action := by
  cases step with
  | operation op => exact fun p => (op.leads p).hears
  | transaction block => exact Session.leads_transact block
  | commit => exact Session.leads_onConnectionFirst (Connection.leads_onDriver_reach _)
  | rollback => exact Session.leads_onConnectionFirst (Connection.leads_onDriver_reach _)
  | close => exact Session.leads_onConnectionFirst Connection.leads_closeAll

theorem Step.hears_run (steps : List (Step κ)) (p : Session × EntityStore κ) :
    p.1.connection.driver.Hears (run steps p).1.connection.driver := by
  induction steps generalizing p with
  | nil => exact refl_of Hears _
  | cons step steps ih => exact trans_of Hears (step.leads p) (ih _)

theorem Step.driver_rollback (p : Session × EntityStore κ) :
    ((rollback : Step κ).action.perform p).2.1.connection.driver =
      p.1.connection.driver.hear .rollback :=
  congrArg Prod.snd (Driver.perform_reach_eq p.1.connection.driver .rollback)

end Hears

/-! ## Durability -/

namespace Session

variable {κ : Type} [DecidableEq κ]

/-- None of the statements that were sent between the first session and the second is durable when the
third is reached. -/
def Unkept (l : Ledger) (s s' s'' : Session) : Prop :=
  ∀ place ∈ (l.upTo s.connection.driver s''.connection.driver).durable,
    place < s.connection.driver.trace.length ∨ s'.connection.driver.trace.length ≤ place

instance (l : Ledger) (s s' s'' : Session) : Decidable (Unkept l s s' s'') :=
  inferInstanceAs (Decidable (∀ _ ∈ _, _))

/-- A rollback that is not refused, before which nothing of the block was made durable, leaves
nothing of it to be kept later. -/
theorem unkept_of_rollback {l : Ledger} {s s' s'' : Session} (calls : List Call)
    (hdurable : ∀ place ∈ (l.afterCalls s.connection.driver calls).durable,
      place < s.connection.driver.trace.length)
    (hwaiting : s.connection.driver.waiting? .rollback = none)
    (hlength : s'.connection.driver.trace.length ≤
      s.connection.driver.trace.length + (calls.length + 1))
    (hlater : ((s.connection.driver.hearAll calls).hear .rollback).Hears s''.connection.driver) :
    Unkept l s s' s'' := by
  obtain ⟨more, hmore⟩ := hlater
  have hrefusal : (s.connection.driver.hearAll calls).refusal? .rollback = none :=
    Driver.waiting?_hearAll_eq_none hwaiting calls
  have hlacks := Ledger.lacks_enter_rollback s'.connection.driver.trace.length hdurable
    hrefusal
  rw [Unkept, hmore, ← Driver.hearAll_cons, ← Driver.hearAll_append, Ledger.upTo_hearAll,
    Ledger.afterCalls_append]
  refine (hlacks.afterCalls ?_ more).durable
  simpa [Nat.add_assoc] using hlength

/-- Nothing of a block is kept that failed, or that a rollback follows: when a failure leaves the
transaction, whichever calls but a rollback the driver refuses, and whatever the session does later. -/
theorem transact_unkept {s : Session} (h : s.Idle)
    (hrollback : s.connection.driver.waiting? .rollback = none) {l : Ledger}
    (hl : ∀ place ∈ l.durable, place < s.connection.driver.trace.length)
    (store : EntityStore κ) (block : Block κ)
    (hraised : ((transact block.run).perform (s, store)).1.isOk = false) (steps : List (Step κ))
    (hundone : (block.run.perform (s.opened, store)).1.isOk = false ∨
      steps.head? = some .rollback) :
    let p := ((transact block.run).perform (s, store)).2
    Unkept l s p.1 (Step.run steps p).1 := by
  intro p
  rcases hrun : block.run.perform (s.opened, store) with ⟨r, inside, store'⟩
  rw [hrun] at hundone
  obtain ⟨⟨-, calls, hdriver, hcalls⟩, -⟩ : s.opened.Advances inside := by
    have hadvances := block.leads_run (s.opened, store)
    rwa [hrun] at hadvances
  have hinside : inside.connection.driver = s.connection.driver.hearAll calls := hdriver
  have hdurable : (l.afterCalls s.connection.driver calls).durable = l.durable :=
    Ledger.durable_afterCalls fun call hcall => Call.ne_commit (hcalls rfl call hcall)
  have hp : p = (inside.left r, store') := congrArg Prod.snd (perform_transact h.free hrun)
  have hleft := driver_left inside r
  rw [hp]
  cases r with
  | error cause =>
      -- the rollback on leaving discards what the block did
      have hlater := Step.hears_run steps (inside.left (.error cause), store')
      refine unkept_of_rollback calls (by rwa [hdurable]) hrollback ?_ ?_
      · rw [hleft, hinside]
        simp
      · rw [← hinside]
        rwa [hleft] at hlater
  | ok u =>
      -- the commit on leaving was refused, and the rollback comes behind it
      obtain ⟨rest, rfl⟩ : ∃ rest, steps = .rollback :: rest := by
        rcases hundone with hfailed | hhead
        · simp [Except.isOk, Except.toBool] at hfailed
        · exact List.head?_eq_some_iff.mp hhead
      have hrefused : inside.connection.driver.refusal? .commit ≠ none := by
        intro hnone
        rw [perform_transact h.free hrun] at hraised
        simp [Transaction.settling, Except.isOk, Except.toBool, hnone] at hraised
      obtain ⟨f, hf⟩ := Option.ne_none_iff_exists'.mp hrefused
      have hrest := Step.hears_run rest (Step.rollback.action.perform (inside.left (.ok u), store')).2
      refine unkept_of_rollback (calls ++ [.commit]) ?_ hrollback ?_ ?_
      · rw [Ledger.afterCalls_append, ← hinside, Ledger.afterCalls, hf]
        change ∀ place ∈ (l.afterCalls s.connection.driver calls).durable, _
        rwa [hdurable]
      · rw [hleft, hinside]
        simp
      · rw [Step.driver_rollback, hleft, hinside] at hrest
        rw [Driver.hearAll_append]
        exact hrest

/-- A session whose driver refuses the first commit. -/
def uncommittedSession : Session :=
  { connection :=
      { dialect := .sqlite, driver := { faults := [(.commit, lostConnection)] } } }

def emptyLog : Operation Nat := .execute "DELETE FROM log" [] "execute"

/-- A block fails behind its only statement. Of the two operations behind it, the commit of the first
one is refused, and the second one makes both durable. -/
theorem transact_unkept_failing :
    let p := ((transact (Block.andThen emptyLog <| .fail .nestedTransaction).run).perform
      (uncommittedSession, TableMap.itemStore)).2
    let p' := Step.run [.operation emptyLog, .operation emptyLog] p
    Unkept {} uncommittedSession p.1 p'.1 ∧
      (Ledger.upTo {} uncommittedSession.connection.driver p'.1.connection.driver).durable.length
        = 2 := by
  refine ⟨?_, by decide +kernel⟩
  exact transact_unkept ⟨rfl, by decide⟩ rfl (by simp) TableMap.itemStore _ (by decide +kernel) _
    (.inl (by decide +kernel))

/-- Where the commit on leaving is refused, the failure leaves the transaction and the statement of the
block stays pending, so that the next statement's own commit makes it durable. -/
theorem kept_after_refused_commit :
    let p := (transact (Block.andThen emptyLog .done).run).perform
      (uncommittedSession, TableMap.itemStore)
    uncommittedSession.connection.driver.waiting? .rollback = none ∧ p.1.isOk = false ∧
      ¬ Unkept {} uncommittedSession p.2.1 (Step.run [.operation emptyLog] p.2).1 := by
  decide +kernel

end Session

end RelationalMapper
