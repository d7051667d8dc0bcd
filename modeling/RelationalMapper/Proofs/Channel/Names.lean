import RelationalMapper.Proofs.Preserved
import RelationalMapper.Channel.Keys

/-! # Names that are known

Whatever a driver answers and raises, nothing that is done with a statement fails for a name that is not
known: what a driver raises is a fault, and what the connection makes of it names the statement. -/

namespace RelationalMapper

open RelationalMapper.Action

namespace Action

variable {σ τ α : Type} {Q : α → Prop}

/-- A failure, unless it is that a name is not known. -/
def NamesKnown (e : Failure) : Prop := e ≠ .unknownName

/-- Whatever state the action starts in, it does not fail for a name that is not known. -/
abbrev Knows (Q : α → Prop) (a : Action σ α) : Prop := Preserves (fun _ => True) NamesKnown Q a

/-- Any action does, if every failure is expected. -/
theorem preserves_any (a : Action σ α) :
    Preserves (fun _ => True) (fun _ => True) (fun _ => True) a := by
  intro s _
  refine ⟨trivial, ?_⟩
  cases (a.perform s).1 <;> trivial

theorem knows_modify (f : σ → σ) : Knows (fun _ => True) (modify f : Action σ Unit) :=
  preserves_modify fun _ _ => trivial

theorem knows_ofExcept {r : Except Failure α} (h : FailsOnly NamesKnown r) :
    Knows (fun _ => True) (Action.ofExcept r : Action σ α) := preserves_ofExcept (fun _ _ => trivial) h

theorem knows_first {a : Action σ α} (h : Knows Q a) : Knows Q (a.first : Action (σ × τ) α) :=
  h.within (fun _ _ => trivial) fun _ _ _ _ => trivial

theorem knows_second {a : Action τ α} (h : Knows Q a) : Knows Q (a.second : Action (σ × τ) α) :=
  h.within (fun _ _ => trivial) fun _ _ _ _ => trivial

theorem Preserves.namesKnown {a : Action σ α} (h : Knows Q a) (s : σ) :
    FailsOnly NamesKnown (a.perform s).1 := by
  intro e he
  have hends := (h s trivial).2
  rwa [he] at hends

theorem namesKnown_forget {a : Action σ α} {s : σ} (h : FailsOnly NamesKnown (a.perform s).1) :
    FailsOnly NamesKnown (a.forget.perform s).1 := by
  rw [forget, perform_bind]
  rcases hrun : a.perform s with ⟨e | x, s'⟩
  · exact failsOnly_error (h e (by rw [hrun]))
  · exact failsOnly_ok ()

/-- What comes behind an action that succeeded. -/
theorem namesKnown_bind_of_ok {β : Type} {a : Action σ β} {f : β → Action σ α} {s s' : σ} {x : β}
    (h : a.perform s = (.ok x, s')) (hf : Knows Q (f x)) : FailsOnly NamesKnown ((a >>= f).perform s).1 := by
  rw [perform_bind_ok h]
  exact hf.namesKnown s'

end Action

/-! ## Connections -/

theorem Driver.knows_reach (point : FailurePoint) : Knows (fun _ => True) (Driver.reach point) := by
  intro d _
  refine ⟨trivial, ?_⟩
  rw [reach, perform_ofFunction]
  simp only
  split <;> simp [Ends, NamesKnown]

namespace Connection

variable {α : Type} {Q : α → Prop}

theorem knows_onDriver {a : Action Driver α} (h : Knows Q a) : Knows Q (onDriver a) :=
  h.within (fun _ _ => trivial) fun _ _ _ _ => trivial

theorem knows_commitUnlessInTransaction : Knows (fun _ => True) commitUnlessInTransaction := by
  refine preserves_get.bind fun c _ => ?_
  split
  · exact knows_onDriver (Driver.knows_reach .commit)
  · exact preserves_pure trivial

theorem knows_rollbackUnlessInTransaction : Knows (fun _ => True) rollbackUnlessInTransaction := by
  refine preserves_get.bind fun c _ => ?_
  split
  · exact (preserves_any rollback).tryCatch fun _ _ => preserves_pure trivial
  · exact preserves_pure trivial

end Connection

/-! ## Statements -/

namespace Channel

variable {α : Type} {Q : α → Prop}

theorem knows_onConnection {a : Action Connection α} (h : Knows Q a) : Knows Q (onConnection a) :=
  h.within (fun _ _ => trivial) fun _ _ _ _ => trivial

theorem knows_reach (point : FailurePoint) : Knows (fun _ => True) (onDriver (Driver.reach point)) :=
  knows_onConnection (Connection.knows_onDriver (Driver.knows_reach point))

theorem knows_change (f : Statement → Statement) : Knows (fun _ => True) (change f) := knows_modify _

theorem knows_commit : Knows (fun _ => True) (onConnection Connection.commitUnlessInTransaction) :=
  knows_onConnection Connection.knows_commitUnlessInTransaction

theorem knows_rollback : Knows (fun _ => True) (onConnection Connection.rollbackUnlessInTransaction) :=
  knows_onConnection Connection.knows_rollbackUnlessInTransaction

theorem knows_close : Knows (fun _ => True) close := by
  refine preserves_get.bind fun ch _ => ?_
  split
  · exact (knows_reach .closeCursor).tryFinally (knows_change _)
  · exact preserves_pure trivial

theorem knows_transmit (call : Call) : Knows (fun _ => True) (transmit call) := by
  refine knows_close.bind fun _ _ => (knows_reach .openCursor).bind fun _ _ =>
    (knows_change _).bind fun _ _ => preserves_get.bind fun ch _ =>
      Preserves.bind (Q := fun _ => True) ?_ fun r _ => ?_
  · refine Preserves.tryFinally (Preserves.tryCatch (preserves_any _) fun e _ => ?_)
      (knows_onConnection (knows_modify _))
    refine knows_rollback.bind fun _ _ =>
      (preserves_throw (Q := fun _ => False) ?_).bind fun _ h => h.elim
    split
    · rename_i hlibrary
      rintro rfl
      contradiction
    · simp [NamesKnown, Statement.failed]
  · cases r <;> exact preserves_pure trivial

theorem knows_executeOnce : Knows (fun _ => True) executeOnce := by
  refine preserves_get.bind fun ch _ => (knows_ofExcept ?_).bind fun params _ => knows_transmit _
  unfold Statement.parameters
  split
  · exact failsOnly_ok _
  · exact failsOnly_error (by simp [NamesKnown])

theorem knows_executeQuery : Knows (fun _ => True) executeQuery := by
  refine knows_executeOnce.bind fun answer _ => preserves_get.bind fun ch _ =>
    Preserves.bind (Q := fun _ => True) ((preserves_any (fetchRows answer)).tryCatch fun e _ => ?_)
      fun rows _ => (knows_change _).bind fun _ _ => ?_
  · exact knows_rollback.bind fun _ _ => preserves_throw (by simp [NamesKnown, Statement.failed])
  · simp only
    split
    · exact knows_commit.bind fun _ _ => preserves_pure trivial
    · exact preserves_pure trivial

theorem knows_executeUpdate : Knows (fun _ => True) executeUpdate := by
  refine knows_executeOnce.bind fun answer _ => ?_
  simp only
  split
  · exact preserves_throw (by simp [NamesKnown, noRowCount])
  · exact (knows_change _).bind fun _ _ => knows_commit.bind fun _ _ => preserves_pure trivial

theorem knows_executeBatch : Knows (fun _ => True) executeBatch := by
  refine preserves_get.bind fun ch _ => ?_
  simp only
  split
  · exact preserves_pure trivial
  · exact (knows_transmit _).bind fun answer _ => (knows_change _).bind fun _ _ =>
      knows_commit.bind fun _ _ => preserves_pure trivial

theorem knows_generatedKeys : Knows (fun _ => True) generatedKeys := by
  refine preserves_get.bind fun ch _ => ?_
  simp only
  split
  · exact preserves_pure trivial
  · exact (preserves_any _).tryCatch fun _ _ =>
      preserves_throw (by simp [NamesKnown, Statement.failed])

theorem knows_changeIfPossible {f : Statement → Except Failure Statement}
    (h : ∀ s, FailsOnly NamesKnown (f s)) : Knows (fun _ => True) (changeIfPossible f) :=
  preserves_get.bind fun _ _ => (knows_ofExcept (h _)).bind fun _ _ => knows_change _

end Channel

namespace Connection

variable {α ε : Type} {Q : α → Prop}

theorem knows_withStatement {sql operation : String} {block : Action (Channel × ε) α}
    (h : Knows Q block) : Knows Q (withStatement sql operation block) := by
  rintro ⟨c, e⟩ _
  have hclosed := h.tryFinally
    (knows_first Channel.knows_close :
      Knows (fun _ => True) (Channel.close.first : Action (Channel × ε) Unit))
  exact ⟨trivial, (hclosed (⟨c, { sql, operation }⟩, e) trivial).2⟩

theorem knows_onStatement {sql operation : String} {block : Action Channel α} (h : Knows Q block) :
    Knows Q (onStatement sql operation block) := by
  intro c _
  have hbeside : Knows Q (withStatement sql operation (block.first : Action (Channel × Unit) α)) :=
    knows_withStatement (knows_first h)
  exact ⟨trivial, (hbeside (c, ()) trivial).2⟩

theorem knows_execute (sql : String) (params : List Value) (operation : String) :
    Knows (fun _ => True) (execute sql params operation) :=
  knows_onStatement ((Channel.knows_change _).bind fun _ _ => Channel.knows_executeUpdate)

end Connection

end RelationalMapper
