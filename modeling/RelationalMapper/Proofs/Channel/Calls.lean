import RelationalMapper.Channel.Keys
import RelationalMapper.Proofs.Action

/-! # The calls that reach a driver

Whatever a driver answers and wherever it fails, it takes in one call after the other, and nothing
else happens to it. A connection advances by calls, none of which settles anything while a transaction
is open. -/

namespace RelationalMapper

open RelationalMapper.Action

/-! ## Calls that are taken in -/

namespace Call

/-- The call hands a statement over, to which an answer belongs. -/
def isStatement : Call → Bool
  | .execute .. | .executeMany .. => true
  | _ => false

/-- The call keeps or discards the work that is pending. -/
def settles (c : Call) : Bool := c = .commit || c = .rollback

/-- The point at which a driver may be told to fail with the call. -/
def point? : Call → Option FailurePoint
  | openCursor => some .openCursor
  | closeCursor => some .closeCursor
  | commit => some .commit
  | rollback => some .rollback
  | close => some .close
  | _ => none

theorem ne_commit {c : Call} (h : c.settles = false) : c ≠ .commit := by
  rintro rfl
  contradiction

@[simp] theorem point?_call (point : FailurePoint) : point.call.point? = some point := by
  cases point <;> rfl

@[simp] theorem isStatement_call (point : FailurePoint) : point.call.isStatement = false := by
  cases point <;> rfl

end Call

namespace Driver

/-- The fault that a call meets before anything of it is done. -/
def refusal? (d : Driver) (c : Call) : Option Fault :=
  if c.isStatement then d.nextResponse.fault else c.point?.bind d.waiting?

/-- The driver after a call: it stands in the trace, and what the driver was told about it is used
up. -/
def hear (d : Driver) (c : Call) : Driver :=
  if c.isStatement then { d.record c with responses := d.responses.tail }
  else match c.point?, d.refusal? c with
    | some point, some f => { d.record c with faults := d.faults.erase (point, f) }
    | _, _ => d.record c

def hearAll (d : Driver) (calls : List Call) : Driver := calls.foldl hear d

section Hear

variable (d : Driver)

@[simp] theorem trace_hear (c : Call) : (d.hear c).trace = d.trace ++ [c] := by
  unfold hear
  split
  · rfl
  · split <;> rfl

@[simp] theorem hearAll_nil : d.hearAll [] = d := rfl

@[simp] theorem hearAll_cons (c : Call) (calls : List Call) :
    d.hearAll (c :: calls) = (d.hear c).hearAll calls := rfl

theorem hearAll_append (calls more : List Call) :
    d.hearAll (calls ++ more) = (d.hearAll calls).hearAll more := by
  rw [hearAll, List.foldl_append]
  rfl

@[simp] theorem trace_hearAll (calls : List Call) :
    (d.hearAll calls).trace = d.trace ++ calls := by
  induction calls generalizing d with
  | nil => simp
  | cons c calls ih => simp [ih]

end Hear

/-- A driver's answers are used up by statements only. -/
theorem responses_hear (d : Driver) {c : Call} (hc : c.isStatement = false) :
    (d.hear c).responses = d.responses := by
  unfold hear
  rw [if_neg (by simp [hc])]
  split <;> rfl

theorem responses_hearAll (d : Driver) {calls : List Call}
    (h : ∀ call ∈ calls, call.isStatement = false) : (d.hearAll calls).responses = d.responses := by
  induction calls generalizing d with
  | nil => rfl
  | cons c calls ih =>
      rw [hearAll_cons, ih _ fun other ho => h other (List.mem_cons_of_mem c ho),
        responses_hear d (h c List.mem_cons_self)]

/-! ## What an action on a driver does -/

theorem perform_reach_eq (d : Driver) (point : FailurePoint) :
    (reach point).perform d = ((d.refusal? point.call).elim (.ok ()) (.error <| .fault ·),
      d.hear point.call) := by
  have hrefusal : d.refusal? point.call = d.waiting? point := by simp [refusal?]
  have hrecord : (d.record point.call).waiting? point = d.waiting? point := rfl
  unfold hear
  rw [if_neg (by simp), reach, perform_ofFunction, hrefusal, Call.point?_call]
  cases h : d.waiting? point with
  | none => simp [hrecord, h]
  | some f =>
      simp only [hrecord, h]
      rfl

theorem perform_send_snd (c : Call) (hc : c.isStatement = true) (d : Driver) :
    ((send c).perform d).2 = d.hear c := by
  unfold hear
  rw [if_pos hc, send, perform_ofFunction]
  simp only
  split <;> rfl

theorem perform_fetch_snd (c : Call) (hc : c.isStatement = false) (hpoint : c.point? = none)
    (answer : Response) (d : Driver) : ((fetch c answer).perform d).2 = d.hear c := by
  unfold hear
  rw [if_neg (by simp [hc]), hpoint, fetch, perform_ofFunction]
  split <;> rfl

end Driver

/-! ## Connections that work -/

namespace Connection

/-- What statements make of a connection. -/
structure Advances (c c' : Connection) : Prop where
  inTransaction_eq : c'.inTransaction = c.inTransaction
  exists_calls : ∃ calls, c'.driver = c.driver.hearAll calls ∧
    (c.inTransaction = true → ∀ call ∈ calls, call.settles = false)

namespace Advances

variable {c c' c'' : Connection}

/-- Nothing was asked of the driver. -/
theorem of_driver_eq (ht : c'.inTransaction = c.inTransaction) (hd : c'.driver = c.driver) :
    c.Advances c' := ⟨ht, [], hd, by simp⟩

theorem trans (h : c.Advances c') (h' : c'.Advances c'') : c.Advances c'' := by
  obtain ⟨ht, calls, hd, hcalls⟩ := h
  obtain ⟨ht', more, hd', hmore⟩ := h'
  refine ⟨ht'.trans ht, calls ++ more, ?_, ?_⟩
  · rw [hd', hd, Driver.hearAll_append]
  · intro hopen call hcall
    rcases List.mem_append.mp hcall with hcall | hcall
    · exact hcalls hopen call hcall
    · exact hmore (ht.trans hopen) call hcall

end Advances

instance : IsPreorder Connection Advances where
  refl _ := .of_driver_eq rfl rfl
  trans _ _ _ := .trans

end Connection

end RelationalMapper
