import RelationalMapper.Proofs.Session.Operation

/-! # Cursors that are closed

Whatever an operation is asked to do and wherever its driver fails, it closes each cursor that it was
given, once, and makes no use of it afterwards. -/

namespace RelationalMapper

open RelationalMapper.Action

/-! ## Keeping count of cursors -/

/-- Cursors have numbers from one on, in the order in which a driver gives them out. -/
structure CursorLog where
  /-- How many cursors the driver gave out. -/
  obtained : Nat := 0
  /-- The cursors that were closed, in the order of the calls that closed them. -/
  closed : List Nat := []
  /-- The calls that were made through a cursor that was closed, or through none. -/
  late : List Call := []
  deriving DecidableEq, Inhabited

namespace CursorLog

/-- The last cursor is there and was not closed. -/
def isOpen (l : CursorLog) : Bool := l.obtained ≠ 0 && l.obtained ∉ l.closed

/-- A call goes to the last cursor. One that is refused gives none out, but it closes the cursor that it
was to close. -/
def enter (l : CursorLog) (c : Call) (refused : Bool) : CursorLog :=
  match c with
  | .openCursor => if refused then l else { l with obtained := l.obtained + 1 }
  | .closeCursor => { l with closed := l.closed ++ [l.obtained] }
  | c => if (c.isStatement || c.fetches) && !l.isOpen then { l with late := l.late ++ [c] } else l

/-- The log after calls to a driver, which refuses what it was told to. -/
def afterCalls (l : CursorLog) (d : Driver) : List Call → CursorLog
  | [] => l
  | c :: calls => (l.enter c (d.refusal? c).isSome).afterCalls (d.hear c) calls

/-- The log of what a driver heard until it came to be another one. -/
def upTo (d d' : Driver) : CursorLog :=
  ({} : CursorLog).afterCalls d (d'.trace.drop d.trace.length)

theorem afterCalls_append (l : CursorLog) (d : Driver) (calls more : List Call) :
    l.afterCalls d (calls ++ more) = (l.afterCalls d calls).afterCalls (d.hearAll calls) more := by
  induction calls generalizing l d with
  | nil => rfl
  | cons c calls ih => exact ih _ _

theorem upTo_hearAll (d : Driver) (calls : List Call) :
    upTo d (d.hearAll calls) = ({} : CursorLog).afterCalls d calls := by
  rw [upTo, Driver.trace_hearAll, List.drop_left]

/-- All cursors were closed in their order, but for the last one if that is open, and none was used
when it was closed. -/
structure Balanced (l : CursorLog) (cursorOpen : Bool) : Prop where
  closed_eq : l.closed = List.range' 1 (l.obtained - cursorOpen.toNat)
  positive : cursorOpen = true → 0 < l.obtained
  late_eq : l.late = []

namespace Balanced

variable {l : CursorLog} {d : Driver} {cursorOpen : Bool}

theorem isOpen_eq (h : l.Balanced true) : l.isOpen = true := by
  have hpositive := h.positive rfl
  simp only [isOpen, h.closed_eq, Bool.and_eq_true, decide_eq_true_eq, Bool.toNat_true]
  refine ⟨by omega, ?_⟩
  simp only [List.mem_range'_1]
  omega

theorem obtained (h : l.Balanced false) : (l.enter .openCursor false).Balanced true :=
  ⟨h.closed_eq, fun _ => Nat.succ_pos _, h.late_eq⟩

theorem shut (h : l.Balanced true) (refused : Bool) :
    (l.enter .closeCursor refused).Balanced false := by
  obtain ⟨n, hn⟩ := Nat.exists_eq_succ_of_ne_zero (Nat.ne_of_gt (h.positive rfl))
  refine ⟨?_, fun hopen => Bool.noConfusion hopen, h.late_eq⟩
  have hclosed : l.closed = List.range' 1 n := by
    rw [h.closed_eq, hn]
    rfl
  change l.closed ++ [l.obtained] = List.range' 1 l.obtained
  rw [hclosed, hn, Nat.succ_eq_add_one, List.range'_1_concat, Nat.add_comm]

/-- What is done through an open cursor leaves it open. -/
theorem used (h : l.Balanced true) {c : Call} (hc : c.handlesCursor = false) (refused : Bool) :
    (l.enter c refused).Balanced true := by
  cases c with
  | openCursor => contradiction
  | closeCursor => contradiction
  | _ => simpa [enter, h.isOpen_eq] using h

theorem usedAll (h : l.Balanced true) {calls : List Call}
    (hcalls : ∀ call ∈ calls, call.handlesCursor = false) :
    (l.afterCalls d calls).Balanced true := by
  induction calls generalizing l d with
  | nil => exact h
  | cons call calls ih =>
      obtain ⟨hcall, hcalls⟩ := List.forall_mem_cons.mp hcalls
      exact ih (h.used hcall _) hcalls

end Balanced

end CursorLog

/-! ## The cursors of a statement -/

section Statements

variable {ch : Channel} {calls : List Call} {reads cursorOpen : Bool} {o : Option Failure}
  {l : CursorLog}

theorem Call.handlesCursor_of_text? {call : Call} {text : String} (h : call.text? = some text) :
    call.handlesCursor = false := by
  cases call <;> simp_all [Call.text?, Call.handlesCursor]

/-- The old cursor is closed, if it is open. -/
theorem Channel.balanced_closing (h : l.Balanced ch.statement.cursor.isSome) :
    (l.afterCalls ch.connection.driver ch.closing).Balanced false := by
  unfold Channel.closing
  cases hopen : ch.statement.cursor.isSome with
  | false => rwa [hopen] at h
  | true =>
      rw [hopen] at h
      exact h.shut (ch.connection.driver.refusal? .closeCursor).isSome

theorem Channel.balanced_opening (h : l.Balanced ch.statement.cursor.isSome)
    (hopen : ch.openRefusal? = none) :
    (l.afterCalls ch.connection.driver ch.opening).Balanced true := by
  rw [opening, CursorLog.afterCalls_append]
  change ((l.afterCalls ch.connection.driver ch.closing).enter .openCursor
    ch.openRefusal?.isSome).Balanced true
  rw [hopen]
  exact (balanced_closing h).obtained

/-- However a use of a statement ends, the cursors stay in balance. -/
theorem Channel.Effect.balanced (heffect : ch.Effect reads calls o cursorOpen)
    (h : l.Balanced ch.statement.cursor.isSome) :
    (l.afterCalls ch.connection.driver calls).Balanced cursorOpen := by
  have hrollback : ∀ call ∈ ch.connection.rollbackCalls, call.handlesCursor = false := by
    intro call hcall
    rw [Connection.eq_of_mem_rollbackCalls hcall]
    rfl
  -- what is sent through the new cursor leaves it open
  have hsent {more : List Call} (hopen : ch.openRefusal? = none)
      (hmore : ∀ call ∈ more, call.handlesCursor = false) :
      (l.afterCalls ch.connection.driver (ch.opening ++ more)).Balanced true := by
    rw [CursorLog.afterCalls_append]
    exact (balanced_opening h hopen).usedAll hmore
  cases heffect with
  | idle => exact h
  | closed hopen =>
      rw [hopen] at h
      exact h.shut (ch.connection.driver.refusal? .closeCursor).isSome
  | unopened hopen =>
      rw [opening, CursorLog.afterCalls_append]
      change ((l.afterCalls ch.connection.driver ch.closing).enter .openCursor
        ch.openRefusal?.isSome).Balanced false
      rw [hopen]
      exact balanced_closing h
  | unanswered hopen =>
      rw [hopen] at h
      exact h.usedAll (by simp [Call.question, Call.handlesCursor])
  | asked hopen =>
      rw [hopen] at h
      exact h.usedAll (by simp [Call.question, Call.handlesCursor])
  | refused htext hopen =>
      exact hsent hopen (List.forall_mem_cons.mpr ⟨Call.handlesCursor_of_text? htext, hrollback⟩)
  | unfetched hcall =>
      exact hsent hcall.openRefusal?_eq (List.forall_mem_cons.mpr
        ⟨Call.handlesCursor_of_text? hcall.text?_eq, List.forall_mem_cons.mpr ⟨rfl, hrollback⟩⟩)
  | uncounted hcall =>
      exact hsent hcall.openRefusal?_eq (List.forall_mem_singleton.mpr
        (Call.handlesCursor_of_text? hcall.text?_eq))
  | done fetched hcall =>
      refine hsent hcall.openRefusal?_eq (List.forall_mem_cons.mpr
        ⟨Call.handlesCursor_of_text? hcall.text?_eq, fun call hmem => ?_⟩)
      rcases eq_of_mem_finishing ch hmem with rfl | rfl <;> rfl

end Statements

/-! ## The cursors of an operation -/

namespace CursorLog

/-- The calls between two channels keep the cursors in balance. -/
def Balances (ch ch' : Channel) (_ : Option Failure) : Prop :=
  ∃ calls, ch.Heard calls ch' ∧ ∀ l : CursorLog, l.Balanced ch.statement.cursor.isSome →
    (l.afterCalls ch.connection.driver calls).Balanced ch'.statement.cursor.isSome

/-- The calls between two connections leave no cursor open. -/
def Closes (c c' : Connection) (_ : Option Failure) : Prop :=
  ∃ calls, c.Heard calls c' ∧ ∀ l : CursorLog, l.Balanced false →
    (l.afterCalls c.driver calls).Balanced false

instance : Passage Balances where
  rest ch _ := ⟨[], .rest ch, fun _ h => h⟩
  trans := by
    rintro ch ch' ch'' o ⟨calls, hheard, hcalls⟩ ⟨more, hheard', hmore⟩
    refine ⟨calls ++ more, hheard.trans hheard', fun l hl => ?_⟩
    rw [afterCalls_append, ← hheard.connection.driver_eq]
    exact hmore _ (hcalls l hl)

instance : Passage Closes where
  rest c _ := ⟨[], .rest c, fun _ h => h⟩
  trans := by
    rintro c c' c'' o ⟨calls, hheard, hcalls⟩ ⟨more, hheard', hmore⟩
    refine ⟨calls ++ more, hheard.trans hheard', fun l hl => ?_⟩
    rw [afterCalls_append, ← hheard.driver_eq]
    exact hmore _ (hcalls l hl)

theorem conduct_closes (operation : String) (admits : Bool → Prop) :
    Statement.Conduct operation admits Balances Closes where
  aside h := ⟨[], h, fun _ hl => hl⟩
  used _ _ hheard heffect := ⟨_, hheard, fun _ hl => heffect.balanced hl⟩
  closed := by
    rintro c sql ch o ⟨calls, hheard, hcalls⟩
    refine ⟨calls ++ ch.closing, hheard.connection.trans ⟨rfl, rfl, rfl⟩, fun l hl => ?_⟩
    rw [afterCalls_append, ← hheard.connection.driver_eq]
    exact Channel.balanced_closing (hcalls l hl)

end CursorLog

/-- Whatever the operation and however it ends, the cursors that it was given are closed when it ends,
each of them once and in their order, and no call was made through a closed one. -/
theorem Operation.closes_cursors {κ : Type} [DecidableEq κ] (op : Operation κ)
    (p : Session × EntityStore κ) :
    let p' := (op.action.perform p).2
    let log := CursorLog.upTo p.1.connection.driver p'.1.connection.driver
    log.closed = List.range' 1 log.obtained ∧ log.late = [] := by
  intro p' log
  have hpasses := op.passes (CursorLog.conduct_closes op.operation op.Admits) p
  obtain ⟨calls, hheard, hcalls⟩ := hpasses.1
  have hbalanced : log.Balanced false := by
    have hlog : log = ({} : CursorLog).afterCalls p.1.connection.driver calls := by
      rw [← CursorLog.upTo_hearAll, ← hheard.driver_eq]
    rw [hlog]
    exact hcalls {} ⟨rfl, fun h => Bool.noConfusion h, rfl⟩
  exact ⟨hbalanced.closed_eq, hbalanced.late_eq⟩

end RelationalMapper
