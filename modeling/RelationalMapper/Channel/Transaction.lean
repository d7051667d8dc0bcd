import RelationalMapper.Channel.Connection

/-!
Transactions: blocks of statements that are committed together or not at all. Connections have
numbers, and the numbers of those with an open block are kept; a connection has at most one.
-/

namespace RelationalMapper

/-- The connections with an open block. -/
abbrev OpenBlocks := List Nat

/-- A block of statements on the connection with this number. -/
structure Transaction where
  connection : Nat
  deriving Repr, DecidableEq, Inhabited

namespace Transaction

/-- A block may be planned only on a connection that has no open one. -/
def plan (blocks : OpenBlocks) (connection : Nat) : Except Failure Transaction :=
  if connection ∈ blocks then .error .nestedTransaction else .ok { connection }

/-- Opens the block. -/
def enter (t : Transaction) : Action (OpenBlocks × Connection) Unit := do
  let (blocks, _) ← get
  if t.connection ∈ blocks then throw .nestedTransaction
  modify fun (blocks, c) => (t.connection :: blocks, { c with inTransaction := true })

def rollbackNotice : Notice := ⟨.warning, "Rolling back the current transaction"⟩

/-- What ends a block: all of it is kept, or none. -/
def settle (succeeded : Bool) : Action Connection Unit := do
  if succeeded then Connection.commit
  else
    Connection.rollback
    Connection.report rollbackNotice

/-- Ends the block, which is over even if the driver refuses. -/
def leave (t : Transaction) (succeeded : Bool) : Action (OpenBlocks × Connection) Unit := do
  try (settle succeeded).second
  finally modify fun (blocks, c) =>
    (blocks.filter (· ≠ t.connection), { c with inTransaction := false })

end Transaction

end RelationalMapper
