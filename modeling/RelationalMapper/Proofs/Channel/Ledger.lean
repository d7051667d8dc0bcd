import RelationalMapper.Proofs.Channel.Calls

/-! # What a database keeps

A statement that a driver took is pending until a commit makes it durable or a rollback discards it.
Statements are named by their places in the driver's trace. -/

namespace RelationalMapper

open RelationalMapper.Action

structure Ledger where
  pending : List Nat := []
  durable : List Nat := []
  deriving DecidableEq, Inhabited

namespace Ledger

/-- A call that is refused changes nothing. -/
def enter (l : Ledger) (place : Nat) (c : Call) (refused : Bool) : Ledger :=
  if refused then l
  else match c with
    | .execute .. | .executeMany .. => { l with pending := l.pending ++ [place] }
    | .commit => { pending := [], durable := l.durable ++ l.pending }
    | .rollback => { l with pending := [] }
    | _ => l

/-- The ledger after calls to a driver, which refuses what it was told to. -/
def afterCalls (l : Ledger) (d : Driver) : List Call → Ledger
  | [] => l
  | c :: calls =>
    (l.enter d.trace.length c (d.refusal? c).isSome).afterCalls (d.hear c) calls

/-- The ledger when the driver has come to be another one. -/
def upTo (l : Ledger) (d d' : Driver) : Ledger :=
  l.afterCalls d (d'.trace.drop d.trace.length)

section AfterCalls

variable (l : Ledger) (d : Driver)

theorem afterCalls_append (calls more : List Call) :
    l.afterCalls d (calls ++ more) = (l.afterCalls d calls).afterCalls (d.hearAll calls) more := by
  induction calls generalizing l d with
  | nil => rfl
  | cons c calls ih => exact ih _ _

@[simp] theorem upTo_hearAll (calls : List Call) :
    l.upTo d (d.hearAll calls) = l.afterCalls d calls := by
  rw [upTo, Driver.trace_hearAll, List.drop_left]

variable {l d}

theorem durable_enter {place : Nat} {c : Call} {refused : Bool} (hc : c ≠ .commit) :
    (l.enter place c refused).durable = l.durable := by
  cases refused with
  | true => rfl
  | false => cases c <;> first | rfl | contradiction

/-- Only a commit makes anything durable. -/
theorem durable_afterCalls {calls : List Call} (hcalls : ∀ call ∈ calls, call ≠ .commit) :
    (l.afterCalls d calls).durable = l.durable := by
  induction calls generalizing l d with
  | nil => rfl
  | cons c calls ih =>
      obtain ⟨hc, hcalls⟩ := List.forall_mem_cons.mp hcalls
      rw [afterCalls, ih hcalls, durable_enter hc]

end AfterCalls

/-! ## Statements that are gone -/

/-- No statement from one place of the trace up to another is in the ledger. -/
structure Lacks (l : Ledger) (first last : Nat) : Prop where
  pending : ∀ place ∈ l.pending, place < first ∨ last ≤ place
  durable : ∀ place ∈ l.durable, place < first ∨ last ≤ place

variable {l : Ledger} {d : Driver} {first last : Nat}

theorem Lacks.enter (h : l.Lacks first last) {place : Nat} (hplace : last ≤ place) (c : Call)
    (refused : Bool) : (l.enter place c refused).Lacks first last := by
  obtain ⟨hpending, hdurable⟩ := h
  have htaken : ({ l with pending := l.pending ++ [place] } : Ledger).Lacks first last := by
    refine ⟨?_, hdurable⟩
    simp only [List.mem_append, List.mem_singleton]
    rintro other (hother | rfl)
    · exact hpending other hother
    · exact .inr hplace
  have hkept : Lacks ⟨[], l.durable ++ l.pending⟩ first last := by
    refine ⟨by simp, ?_⟩
    intro other hother
    rcases List.mem_append.mp hother with hother | hother
    · exact hdurable other hother
    · exact hpending other hother
  have hdiscarded : ({ l with pending := [] } : Ledger).Lacks first last := ⟨by simp, hdurable⟩
  cases refused with
  | true => exact ⟨hpending, hdurable⟩
  | false =>
      cases c with
      | execute _ _ => exact htaken
      | executeMany _ _ => exact htaken
      | commit => exact hkept
      | rollback => exact hdiscarded
      | _ => exact ⟨hpending, hdurable⟩

/-- What is gone does not come back. -/
theorem Lacks.afterCalls (h : l.Lacks first last) (hd : last ≤ d.trace.length)
    (calls : List Call) : (l.afterCalls d calls).Lacks first last := by
  induction calls generalizing l d with
  | nil => exact h
  | cons c calls ih =>
      apply ih (h.enter hd c _)
      rw [Driver.trace_hear, List.length_append]
      omega

/-- A rollback that is not refused discards all that is not durable. -/
theorem lacks_enter_rollback (last : Nat) (hl : ∀ place ∈ l.durable, place < first)
    (hd : d.refusal? .rollback = none) :
    (l.enter d.trace.length .rollback (d.refusal? .rollback).isSome).Lacks first last := by
  rw [hd]
  exact ⟨by simp [Ledger.enter], fun place hplace => .inl (hl place hplace)⟩

end Ledger

/-! ## Drivers that hear calls -/

namespace Driver

/-- One driver comes from another by calls. -/
def Hears (d d' : Driver) : Prop := ∃ calls, d' = d.hearAll calls

instance : IsPreorder Driver Hears where
  refl _ := ⟨[], rfl⟩
  trans _ _ _ := by
    rintro ⟨calls, rfl⟩ ⟨more, rfl⟩
    exact ⟨calls ++ more, (hearAll_append _ calls more).symm⟩

theorem Hears.of_hear (d : Driver) (c : Call) : d.Hears (d.hear c) := ⟨[c], rfl⟩

/-- No fault comes to wait at a point. -/
theorem waiting?_hear_eq_none {d : Driver} {point : FailurePoint} (h : d.waiting? point = none)
    (c : Call) : (d.hear c).waiting? point = none := by
  unfold hear
  split
  · exact h
  · split
    · simp only [waiting?, List.lookup_eq_none_iff] at h ⊢
      exact fun waiting hwaiting => h waiting (List.mem_of_mem_erase hwaiting)
    · exact h

theorem waiting?_hearAll_eq_none {d : Driver} {point : FailurePoint}
    (h : d.waiting? point = none) (calls : List Call) :
    (d.hearAll calls).waiting? point = none := by
  induction calls generalizing d with
  | nil => exact h
  | cons c calls ih => exact ih (waiting?_hear_eq_none h c)

end Driver

end RelationalMapper
