import RelationalMapper.Proofs.Bulk.Partition
import RelationalMapper.Proofs.Session.Operation

/-! # Blocks of a transaction

What is done between opening a transaction and leaving it is a block. Whichever operations it is made
of and whichever of them fail, nothing is settled before the block is left, and leaving it settles
everything with one call. -/

namespace RelationalMapper

open RelationalMapper.Action

/-! ## Blocks -/

/-- The action with its failure, if it fails, as a result. -/
def Action.outcome {σ α : Type} (a : Action σ α) : Action σ (Except Failure α) :=
  ofFunction fun s => (.ok (a.perform s).1, (a.perform s).2)

@[simp] theorem Action.perform_outcome {σ α : Type} (a : Action σ α) (s : σ) :
    a.outcome.perform s = (.ok (a.perform s).1, (a.perform s).2) := rfl

/-- Operations, each of them chosen by what became of those before it, up to an end or to a failure
that leaves the block. A failure of an operation is caught by going on. -/
inductive Block (κ : Type) where
  | done
  | fail (e : Failure)
  | attempt (operation : Operation κ)
      (next : Except Failure Unit → Session × EntityStore κ → Block κ)

section Blocks

variable {κ : Type} [DecidableEq κ]

def Block.run : Block κ → Action (Session × EntityStore κ) Unit
  | done => pure ()
  | fail e => throw e
  | attempt operation next => do
    let r ← operation.action.outcome
    (next r (← get)).run

/-- A failure of the operation leaves the block. -/
def Block.andThen (operation : Operation κ) (rest : Block κ) : Block κ :=
  .attempt operation fun r _ => match r with
    | .ok _ => rest
    | .error e => .fail e

/-- A failure of the operation is caught. -/
def Block.caught (operation : Operation κ) (rest : Block κ) : Block κ :=
  .attempt operation fun _ _ => rest

theorem Block.leads_run (block : Block κ) : Leads Session.Advances (·.1) block.run := by
  induction block with
  | done => exact leads_pure _
  | fail e => exact leads_throw e
  | attempt operation next ih =>
      have hattempt : Leads Session.Advances (·.1) operation.action.outcome :=
        fun p => operation.leads p
      exact hattempt.bind fun r => leads_get.bind fun p => ih r p

end Blocks

/-! ## Transactions -/

namespace Transaction

/-- The call that ends a block. -/
def settling (succeeded : Bool) : Call := if succeeded then .commit else .rollback

/-- The driver hears the call, and its refusal is what becomes of settling. -/
theorem perform_settle (succeeded : Bool) (c : Connection) :
    ((settle succeeded).perform c).1 =
        (c.driver.refusal? (settling succeeded)).elim (.ok ()) (.error <| .fault ·) ∧
      ((settle succeeded).perform c).2.driver = c.driver.hear (settling succeeded) := by
  cases succeeded with
  | true =>
      have hreach := Driver.perform_reach_eq c.driver .commit
      exact ⟨congrArg Prod.fst hreach, congrArg Prod.snd hreach⟩
  | false =>
      have hreach := Driver.perform_reach_eq c.driver .rollback
      have hrollback : Connection.rollback.perform c =
          ((c.driver.refusal? .rollback).elim (.ok ()) (.error <| .fault ·),
            { c with driver := c.driver.hear .rollback }) := by
        rw [Connection.rollback, Connection.onDriver, perform_within, hreach]
        rfl
      simp only [settle, settling, Bool.false_eq_true, if_false, perform_bind, hrollback]
      cases c.driver.refusal? .rollback with
      | none => exact ⟨rfl, rfl⟩
      | some f => exact ⟨rfl, rfl⟩

/-- The block is over whatever becomes of settling it. -/
theorem perform_leave (t : Transaction) (succeeded : Bool) (blocks : OpenBlocks)
    (c : Connection) :
    (t.leave succeeded).perform (blocks, c) = (((settle succeeded).perform c).1,
      (blocks.filter (· ≠ t.connection),
        { ((settle succeeded).perform c).2 with inTransaction := false })) := by
  rw [leave, perform_tryFinally]
  rfl

end Transaction

namespace Session

/-- Opens a transaction on the session's connection. -/
def beginTransaction : Action Session Transaction := do
  let t ← planTransaction
  onBlocks t.enter
  return t

/-- Runs a block in a transaction of its own: the transaction is left however the block ends, and a
failure of the block is passed on unless leaving fails itself. -/
def transact {ε : Type} (block : Action (Session × ε) Unit) : Action (Session × ε) Unit := do
  let t ← beginTransaction.first
  let r ← block.outcome
  (onBlocks (t.leave r.isOk)).first
  Action.ofExcept r

/-- No transaction is open on the session's connection. -/
structure Idle (s : Session) : Prop where
  inTransaction : s.connection.inTransaction = false
  free : connectionNumber ∉ s.blocks

/-- The session inside a transaction that was opened on it. -/
def opened (s : Session) : Session :=
  { s with
    blocks := connectionNumber :: s.blocks
    connection := { s.connection with inTransaction := true } }

theorem perform_beginTransaction {s : Session} (h : connectionNumber ∉ s.blocks) :
    beginTransaction.perform s = (.ok ⟨connectionNumber⟩, s.opened) := by
  have hplan : Transaction.plan s.blocks connectionNumber = .ok ⟨connectionNumber⟩ := by
    rw [Transaction.plan, if_neg h]
  simp [beginTransaction, planTransaction, perform_bind, hplan, onBlocks, Transaction.enter, h,
    opened, Except.map]

/-- The session after leaving a block that ended in this way. -/
def left (s : Session) (r : Except Failure Unit) : Session :=
  ((onBlocks ((⟨connectionNumber⟩ : Transaction).leave r.isOk)).perform s).2

section Left

variable (s : Session) (r : Except Failure Unit)

theorem perform_leave :
    (onBlocks ((⟨connectionNumber⟩ : Transaction).leave r.isOk)).perform s =
      ((s.connection.driver.refusal? (Transaction.settling r.isOk)).elim (.ok ())
        (.error <| .fault ·), s.left r) := by
  refine Prod.ext ?_ rfl
  rw [onBlocks, perform_within, Transaction.perform_leave]
  exact (Transaction.perform_settle r.isOk s.connection).1

theorem driver_left :
    (s.left r).connection.driver = s.connection.driver.hear (Transaction.settling r.isOk) := by
  rw [left, onBlocks, perform_within, Transaction.perform_leave]
  exact (Transaction.perform_settle r.isOk s.connection).2

theorem idle_left : (s.left r).Idle := by
  rw [left, onBlocks, perform_within, Transaction.perform_leave]
  exact ⟨rfl, by simp⟩

end Left

variable {ε : Type}

/-- A block runs in the transaction that was opened for it, which is left as the block ended. -/
theorem perform_transact {s s' : Session} {e e' : ε} {block : Action (Session × ε) Unit}
    {r : Except Failure Unit} (h : connectionNumber ∉ s.blocks)
    (hblock : block.perform (s.opened, e) = (r, (s', e'))) :
    (transact block).perform (s, e) =
      ((s'.connection.driver.refusal? (Transaction.settling r.isOk)).elim r (.error <| .fault ·),
        (s'.left r, e')) := by
  have hleave := perform_leave s' r
  simp only [transact, perform_bind, perform_first, perform_beginTransaction h, perform_outcome,
    hblock, hleave]
  cases s'.connection.driver.refusal? (Transaction.settling r.isOk) with
  | none => simp
  | some f => rfl

/-! ## Discipline -/

/-- How a block that ended in this way, in the session `inside`, takes a session to another one. -/
structure Disciplined (s inside s' : Session) (r : Except Failure Unit) : Prop where
  /-- Nothing is settled from entering the block to leaving it. -/
  unsettled : ∃ calls, inside.connection.driver.trace = s.connection.driver.trace ++ calls ∧
    ∀ call ∈ calls, call ≠ .commit ∧ call ≠ .rollback
  /-- Leaving the block is one call: a commit if the block came to its end, and a rollback if a
  failure escaped from it. -/
  settled : s'.connection.driver.trace = inside.connection.driver.trace ++
    [if r.isOk then .commit else .rollback]
  closed : s'.connection.inTransaction = false
  /-- The next transaction can be opened. -/
  reopens : ∃ t s'', beginTransaction.perform s' = (.ok t, s'') ∧
    s''.connection.inTransaction = true

/-- Whatever a block does and whichever calls the driver refuses, the last one included, the block is
left in this way. -/
theorem transact_discipline {κ : Type} [DecidableEq κ] {s : Session} (h : s.Idle)
    (store : EntityStore κ) (block : Block κ) :
    ∃ r inside store', block.run.perform (s.opened, store) = (r, (inside, store')) ∧
      Disciplined s inside ((transact block.run).perform (s, store)).2.1 r := by
  rcases hrun : block.run.perform (s.opened, store) with ⟨r, inside, store'⟩
  refine ⟨r, inside, store', rfl, ?_⟩
  obtain ⟨⟨-, calls, hdriver, hcalls⟩, -⟩ : s.opened.Advances inside := by
    have hadvances := block.leads_run (s.opened, store)
    rwa [hrun] at hadvances
  rw [perform_transact h.free hrun]
  have hidle := idle_left inside r
  refine ⟨⟨calls, ?_, ?_⟩, ?_, hidle.inTransaction, ?_⟩
  · rw [hdriver, Driver.trace_hearAll]
    rfl
  · intro call hcall
    have hunsettled := hcalls rfl call hcall
    simpa [Call.settles] using hunsettled
  · rw [driver_left, Driver.trace_hear]
    cases r <;> rfl
  · exact ⟨_, _, perform_beginTransaction hidle.free, rfl⟩

/-- The database goes away. -/
def lostConnection : Fault := ⟨.driver .sqlite .operational, "disk I/O error"⟩

/-- A session whose driver refuses the first statement, and the first commit. -/
def refusingSession : Session :=
  { connection :=
      { dialect := .sqlite
        driver := { responses := [{ fault := some lostConnection }]
                    faults := [(.commit, lostConnection)] } } }

/-- An insertion whose failure is caught, and a statement behind it. -/
def caughtBlock : Block Nat :=
  .caught (.insertAll [0, 1]) <| .caught (.execute "DELETE FROM log" [] "execute") .done

/-- One insertion is refused and caught, and the commit of what comes behind it is refused as well. -/
theorem transact_discipline_caught :
    ((transact caughtBlock.run).perform (refusingSession, TableMap.itemStore)).2.1.connection.driver.faults
        = [] ∧
      ∃ r inside store', caughtBlock.run.perform (refusingSession.opened, TableMap.itemStore) =
          (r, (inside, store')) ∧
        Disciplined refusingSession inside
          ((transact caughtBlock.run).perform (refusingSession, TableMap.itemStore)).2.1 r :=
  ⟨by decide +kernel, transact_discipline ⟨rfl, by decide⟩ TableMap.itemStore caughtBlock⟩

end Session

end RelationalMapper
