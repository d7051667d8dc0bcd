import Mathlib.Logic.Function.Basic
import RelationalMapper.Proofs.Session.Block

/-! # Transactions on several connections

One thread plans transactions, enters their blocks and leaves them, the innermost block first, on as
many connections as it likes. Whichever blocks fail and whatever the drivers refuse, a connection is in
a transaction just while one block on it is open, and a second block is refused. -/

namespace RelationalMapper

open RelationalMapper.Action

/-! ## Threads -/

/-- What one thread of an application works on. -/
structure Thread where
  connections : Nat → Connection
  blocks : OpenBlocks := []
  /-- The transactions that were planned; each of them may be entered time and again. -/
  planned : List Transaction := []
  /-- The transactions whose blocks were entered and not left yet, the innermost first. -/
  entered : List Transaction := []

namespace Thread

/-- An action on one connection and the open blocks. -/
def on {α : Type} (n : Nat) (a : Action (OpenBlocks × Connection) α) : Action Thread α :=
  a.within (fun s => (s.blocks, s.connections n)) fun s (blocks, c) =>
    { s with blocks, connections := Function.update s.connections n c }

/-- Plans a transaction on a connection. -/
def plan (n : Nat) : Action Thread Unit := do
  let t ← Action.ofExcept (Transaction.plan (← get).blocks n)
  modify fun s => { s with planned := s.planned ++ [t] }

/-- Enters the block of the transaction that was planned at this place. -/
def enter (place : Nat) : Action Thread Unit := do
  match (← get).planned[place]? with
  | none => throw .unknownName
  | some t =>
    on t.connection t.enter
    modify fun s => { s with entered := t :: s.entered }

/-- Leaves the innermost block, at its end or by a failure; the block is left whatever the driver
says. -/
def leave (succeeded : Bool) : Action Thread Unit := do
  match (← get).entered with
  | [] => pure ()
  | t :: outer =>
    try on t.connection (t.leave succeeded)
    finally modify fun s => { s with entered := outer }

/-- What a thread does next. -/
inductive Move where
  | plan (connection : Nat)
  | enter (place : Nat)
  | leave (succeeded : Bool)
  /-- A statement is executed, inside or outside of a block. -/
  | execute (connection : Nat) (sql : String) (params : List Value) (operation : String)
  /-- It is settled what a driver will answer and where it will fail. -/
  | instruct (connection : Nat) (responses : List Response) (faults : List (FailurePoint × Fault))
  deriving Inhabited

def Move.action : Move → Action Thread Unit
  | plan n => Thread.plan n
  | enter place => Thread.enter place
  | leave succeeded => Thread.leave succeeded
  | execute n sql params operation =>
      on n (Connection.execute sql params operation).second.forget
  | instruct n responses faults =>
      on n (modify fun (blocks, c) => (blocks,
        { c with driver := { c.driver with
            responses := c.driver.responses ++ responses
            faults := c.driver.faults ++ faults } }))

/-- One move after the other, whatever becomes of them. -/
def run (moves : List Move) (s : Thread) : Thread :=
  moves.foldl (fun s move => (move.action.perform s).2) s

/-! ## Open blocks -/

variable {s s' : Thread}

/-- The connection is in a transaction. -/
def isBusy (s : Thread) (n : Nat) : Bool := (s.connections n).inTransaction

/-- How many blocks are open on a connection. -/
def openOn (s : Thread) (n : Nat) : Nat := s.entered.countP (·.connection = n)

/-- The connections that are kept as those with an open block are the ones in a transaction, and on
each of them exactly one block is open. -/
structure Orderly (s : Thread) : Prop where
  mem_blocks : ∀ n, n ∈ s.blocks ↔ s.isBusy n = true
  openOn_eq : ∀ n, s.openOn n = if s.isBusy n then 1 else 0

theorem Orderly.congr (h : s.Orderly) (hblocks : s'.blocks = s.blocks)
    (hentered : s'.entered = s.entered) (hbusy : s'.isBusy = s.isBusy) : s'.Orderly := by
  refine ⟨fun n => ?_, fun n => ?_⟩
  · rw [hblocks, hbusy]
    exact h.mem_blocks n
  · rw [openOn, hentered, hbusy]
    exact h.openOn_eq n

/-- Where a block is open, none can be opened. -/
theorem Orderly.mem_blocks_iff (h : s.Orderly) (n : Nat) : n ∈ s.blocks ↔ 0 < s.openOn n := by
  rw [h.mem_blocks, h.openOn_eq]
  cases s.isBusy n <;> simp

/-! ## One move -/

/-- Nothing but the connection is touched. -/
def withConnection (s : Thread) (n : Nat) (c : Connection) : Thread :=
  { s with connections := Function.update s.connections n c }

/-- The thread inside the block of a transaction. -/
def opened (s : Thread) (t : Transaction) : Thread :=
  { s.withConnection t.connection { s.connections t.connection with inTransaction := true } with
    blocks := t.connection :: s.blocks
    entered := t :: s.entered }

/-- The thread outside of its innermost block, behind what became of settling it. -/
def closed (s : Thread) (t : Transaction) (outer : List Transaction) (c : Connection) : Thread :=
  { s.withConnection t.connection { c with inTransaction := false } with
    blocks := s.blocks.filter (· ≠ t.connection)
    entered := outer }

theorem isBusy_withConnection (n : Nat) (c : Connection) :
    (s.withConnection n c).isBusy = Function.update s.isBusy n c.inTransaction := by
  funext other
  by_cases h : other = n
  · subst h
    simp [isBusy, withConnection]
  · simp [isBusy, withConnection, h]

theorem perform_plan_taken {n : Nat} (h : n ∈ s.blocks) :
    (plan n).perform s = (.error .nestedTransaction, s) := by
  have hrefused : Transaction.plan s.blocks n = .error .nestedTransaction := if_pos h
  simp [plan, perform_bind, hrefused]

theorem perform_plan_free {n : Nat} (h : n ∉ s.blocks) :
    (plan n).perform s = (.ok (), { s with planned := s.planned ++ [⟨n⟩] }) := by
  have hplanned : Transaction.plan s.blocks n = .ok ⟨n⟩ := if_neg h
  simp [plan, perform_bind, hplanned]

section Enter

variable {place : Nat} {t : Transaction} (hplace : s.planned[place]? = some t)

include hplace

theorem perform_enter_taken (h : t.connection ∈ s.blocks) :
    (enter place).perform s = (.error .nestedTransaction, s) := by
  have hrefused : (on t.connection t.enter).perform s = (.error .nestedTransaction, s) := by
    simp [on, Transaction.enter, perform_bind, h]
  simp [enter, perform_bind, hplace, hrefused]

theorem perform_enter_free (h : t.connection ∉ s.blocks) :
    (enter place).perform s = (.ok (), s.opened t) := by
  simp [enter, on, opened, withConnection, Transaction.enter, perform_bind, hplace, h]

end Enter

theorem perform_enter_unplanned {place : Nat} (h : s.planned[place]? = none) :
    (enter place).perform s = (.error .unknownName, s) := by
  simp [enter, perform_bind, h]

theorem perform_leave {t : Transaction} {outer : List Transaction} (h : s.entered = t :: outer)
    (succeeded : Bool) :
    let settled := (Transaction.settle succeeded).perform (s.connections t.connection)
    (leave succeeded).perform s = (settled.1, s.closed t outer settled.2) := by
  simp only [leave, perform_bind, perform_get, h, perform_tryFinally, on, perform_within,
    Transaction.perform_leave, perform_modify]
  rfl

theorem perform_leave_outside (h : s.entered = []) (succeeded : Bool) :
    (leave succeeded).perform s = (.ok (), s) := by
  simp [leave, perform_bind, h]

/-- A statement opens and closes no block. -/
theorem perform_execute (n : Nat) (sql : String) (params : List Value) (operation : String) :
    ∃ r c, (Move.execute n sql params operation).action.perform s = (r, s.withConnection n c) ∧
      c.inTransaction = s.isBusy n := by
  have hadvances := (Connection.conduct_advances operation fun _ => True).passes_execute trivial
    sql params (s.connections n)
  rcases hexecute : (Connection.execute sql params operation).perform (s.connections n) with ⟨r, c⟩
  rw [hexecute] at hadvances
  refine ⟨r.map fun _ => (), c, ?_, hadvances.inTransaction_eq⟩
  cases r <;> simp [Move.action, on, Action.forget, hexecute, withConnection, Except.map]

/-! ## What a move preserves -/

namespace Orderly

theorem withConnection (h : s.Orderly) {n : Nat} {c : Connection}
    (hc : c.inTransaction = s.isBusy n) : (s.withConnection n c).Orderly :=
  h.congr rfl rfl (by rw [isBusy_withConnection, hc, Function.update_eq_self])

theorem opened (h : s.Orderly) {t : Transaction} (hfree : t.connection ∉ s.blocks) :
    (s.opened t).Orderly := by
  have hbusy : (s.opened t).isBusy = Function.update s.isBusy t.connection true :=
    isBusy_withConnection _ _
  have hopen (n : Nat) :
      (s.opened t).openOn n = s.openOn n + if t.connection = n then 1 else 0 := by
    simp [openOn, Thread.opened, List.countP_cons]
  refine ⟨fun n => ?_, fun n => ?_⟩
  · rw [hbusy, Function.update_apply, Thread.opened, List.mem_cons, h.mem_blocks]
    by_cases hn : n = t.connection <;> simp [hn]
  · rw [hbusy, Function.update_apply, hopen]
    by_cases hn : n = t.connection
    · have hnone := (h.mem_blocks_iff t.connection).not.mp hfree
      simp only [hn, if_true]
      omega
    · simp [hn, Ne.symm hn, h.openOn_eq n]

/-- The innermost block is the only one on its connection, so that none is left open there. -/
theorem closed (h : s.Orderly) {t : Transaction} {outer : List Transaction}
    (hentered : s.entered = t :: outer) (c : Connection) : (s.closed t outer c).Orderly := by
  have hbusy : (s.closed t outer c).isBusy = Function.update s.isBusy t.connection false :=
    isBusy_withConnection _ _
  have hopen (n : Nat) :
      (s.closed t outer c).openOn n + (if t.connection = n then 1 else 0) = s.openOn n := by
    simp [openOn, Thread.closed, hentered, List.countP_cons]
  refine ⟨fun n => ?_, fun n => ?_⟩
  · rw [hbusy, Function.update_apply, Thread.closed, List.mem_filter, h.mem_blocks]
    by_cases hn : n = t.connection <;> simp [hn]
  · have hone := hopen n
    rw [h.openOn_eq] at hone
    rw [hbusy, Function.update_apply]
    by_cases hn : n = t.connection
    · simp only [hn, if_true] at hone ⊢
      split at hone <;> simp at hone ⊢
      omega
    · simpa [hn, Ne.symm hn] using hone

theorem move (h : s.Orderly) (m : Move) : (m.action.perform s).2.Orderly := by
  cases m with
  | plan n =>
      by_cases hn : n ∈ s.blocks
      · rwa [Move.action, perform_plan_taken hn]
      · rw [Move.action, perform_plan_free hn]
        exact h.congr rfl rfl rfl
  | enter place =>
      rw [Move.action]
      cases hplace : s.planned[place]? with
      | none => rwa [perform_enter_unplanned hplace]
      | some t =>
          by_cases ht : t.connection ∈ s.blocks
          · rwa [perform_enter_taken hplace ht]
          · rw [perform_enter_free hplace ht]
            exact h.opened ht
  | leave succeeded =>
      rw [Move.action]
      cases hentered : s.entered with
      | nil => rwa [perform_leave_outside hentered]
      | cons t outer =>
          rw [perform_leave hentered]
          exact h.closed hentered _
  | execute n sql params operation =>
      obtain ⟨r, c, hrun, hc⟩ := perform_execute (s := s) n sql params operation
      rw [hrun]
      exact h.withConnection hc
  | instruct n responses faults => exact h.withConnection rfl

theorem run (h : s.Orderly) (moves : List Move) : (run moves s).Orderly := by
  induction moves generalizing s with
  | nil => exact h
  | cons m moves ih => exact ih (h.move m)

end Orderly

/-! ## One block on each connection -/

/-- A thread at its start: no block was entered yet, and no transaction was planned. -/
def start (connections : Nat → Connection) : Thread := { connections }

theorem orderly_start {connections : Nat → Connection}
    (h : ∀ n, (connections n).inTransaction = false) : (start connections).Orderly :=
  ⟨fun n => by simp [start, isBusy, h n], fun n => by simp [start, openOn, isBusy, h n]⟩

/-- A connection is kept as one with an open block just if it is in a transaction, and just if exactly
one block on it is open. As long as it is, to plan a transaction on it or to enter one is refused, and
nothing is touched; as soon as it is not, both succeed. -/
structure Exclusive (s : Thread) : Prop where
  mem_blocks_iff : ∀ n, n ∈ s.blocks ↔ s.isBusy n = true
  isBusy_iff : ∀ n, s.isBusy n = true ↔ s.openOn n = 1
  openOn_le : ∀ n, s.openOn n ≤ 1
  plan_taken : ∀ n, s.openOn n = 1 → (plan n).perform s = (.error .nestedTransaction, s)
  plan_free : ∀ n, s.openOn n = 0 →
    (plan n).perform s = (.ok (), { s with planned := s.planned ++ [⟨n⟩] })
  enter_taken : ∀ place t, s.planned[place]? = some t → s.openOn t.connection = 1 →
    (enter place).perform s = (.error .nestedTransaction, s)
  enter_free : ∀ place t, s.planned[place]? = some t → s.openOn t.connection = 0 →
    (enter place).perform s = (.ok (), s.opened t)

theorem Orderly.exclusive (h : s.Orderly) : s.Exclusive := by
  have htaken {n : Nat} (hn : s.openOn n = 1) : n ∈ s.blocks := (h.mem_blocks_iff n).mpr (by omega)
  have hfree {n : Nat} (hn : s.openOn n = 0) : n ∉ s.blocks := by
    rw [h.mem_blocks_iff]
    omega
  refine ⟨h.mem_blocks, fun n => ?_, fun n => ?_, fun n hn => perform_plan_taken (htaken hn),
    fun n hn => perform_plan_free (hfree hn),
    fun place t hplace ht => perform_enter_taken hplace (htaken ht),
    fun place t hplace ht => perform_enter_free hplace (hfree ht)⟩
  · rw [h.openOn_eq]
    cases s.isBusy n <;> simp
  · rw [h.openOn_eq]
    split <;> omega

/-- Whatever a thread plans, enters and leaves, in whatever way its blocks end and whichever commits
and rollbacks are refused. -/
theorem exclusive_run {connections : Nat → Connection}
    (h : ∀ n, (connections n).inTransaction = false) (moves : List Move) :
    (run moves (start connections)).Exclusive := ((orderly_start h).run moves).exclusive

/-- Transactions that are planned early and entered late, one of them twice: a block on the second
connection stands inside of one on the first, and its commit is refused. -/
def nestedMoves : List Move :=
  [.plan 0, .plan 1, .plan 0, .instruct 1 [] [(.commit, Session.lostConnection)],
    .enter 0, .enter 2, .plan 0, .enter 1, .execute 1 "DELETE FROM log" [] "execute",
    .leave true, .enter 1, .leave false]

/-- Both blocks on the second connection are left, the first one with a refused commit, and the one on
the first connection is still open. -/
theorem exclusive_run_nested :
    let s := run nestedMoves (start fun _ => { dialect := .sqlite })
    s.planned = [⟨0⟩, ⟨1⟩, ⟨0⟩] ∧ s.blocks = [0] ∧
      (s.connections 1).driver.trace.filter (·.settles) = [.commit, .rollback] ∧ s.Exclusive :=
  ⟨by decide +kernel, by decide +kernel, by decide +kernel, exclusive_run (fun _ => rfl) nestedMoves⟩

end Thread

end RelationalMapper
