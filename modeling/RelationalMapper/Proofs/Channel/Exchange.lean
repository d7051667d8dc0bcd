import Mathlib.Data.List.TakeWhile
import RelationalMapper.Proofs.Channel.Use

/-! # Statements and what comes behind them

The calls that a driver hears are cut at the statements that it is handed: behind each of them come the
calls that are made up to the next one. -/

namespace RelationalMapper

/-! ## Exchanges -/

/-- A statement that a driver was handed. -/
structure Exchange where
  /-- The place of the statement in the trace. -/
  place : Nat
  call : Call
  answer : Response
  /-- The calls up to the next statement. -/
  behind : List Call
  deriving DecidableEq

namespace Exchange

/-- What the driver raised, either at the statement or where its rows were fetched. -/
def fault? (x : Exchange) : Option Fault :=
  match x.answer.fault with
  | some f => some f
  | none => if x.behind.any Call.fetches then x.answer.fetchFault else none

/-- The commits and rollbacks behind the statement. -/
def settling (x : Exchange) : List Call := x.behind.filter Call.settles

/-- The exchange with more calls behind it. -/
def extended (x : Exchange) (more : List Call) : Exchange := { x with behind := x.behind ++ more }

section Extended

variable {x : Exchange} {more : List Call} (hmore : ∀ call ∈ more, call.handlesCursor = true)

include hmore

theorem fault?_extended : (x.extended more).fault? = x.fault? := by
  have hany : more.any Call.fetches = false := by
    apply List.any_eq_false.mpr
    intro call hcall
    have h := hmore call hcall
    cases call <;> simp_all [Call.handlesCursor, Call.fetches]
  simp only [fault?, extended, List.any_append, hany, Bool.or_false]

theorem settling_extended : (x.extended more).settling = x.settling := by
  have hnone : more.filter Call.settles = [] := by
    apply List.filter_eq_nil_iff.mpr
    intro call hcall
    have h := hmore call hcall
    cases call <;> simp_all [Call.handlesCursor, Call.settles]
  simp only [settling, extended, List.filter_append, hnone, List.append_nil]

end Extended

end Exchange

/-! ## Cutting a trace -/

/-- The calls in front of the first statement. -/
def leading (calls : List Call) : List Call := calls.takeWhile (!·.isStatement)

/-- In front of the first statement, cursors are opened and closed and nothing else is done. -/
def LeadsIn (calls : List Call) : Prop := ∀ call ∈ leading calls, call.handlesCursor = true

theorem leading_of_statement {call : Call} (h : call.isStatement = true) (calls : List Call) :
    leading (call :: calls) = [] := by
  simp [leading, h]

theorem leading_cons {call : Call} (h : call.isStatement = false) (calls : List Call) :
    leading (call :: calls) = call :: leading calls := by
  simp [leading, h]

theorem leading_eq_self {calls : List Call} (h : ∀ call ∈ calls, call.isStatement = false) :
    leading calls = calls := by
  apply List.takeWhile_eq_self_iff.mpr
  intro call hcall
  simp [h call hcall]

theorem leadsIn_nil : LeadsIn [] := by simp [LeadsIn, leading]

theorem leadsIn_of_statement {call : Call} (h : call.isStatement = true) (calls : List Call) :
    LeadsIn (call :: calls) := by
  simp [LeadsIn, leading_of_statement h]

theorem leadsIn_of_handlesCursor {calls : List Call}
    (h : ∀ call ∈ calls, call.handlesCursor = true) : LeadsIn calls :=
  fun call hcall => h call ((List.takeWhile_sublist _).subset hcall)

/-- What leads in stands in front of the rest, or there was no statement yet. -/
theorem leading_append_cases (calls more : List Call) :
    leading (calls ++ more) = leading calls ∨
      leading calls = calls ∧ leading (calls ++ more) = calls ++ leading more := by
  induction calls with
  | nil => exact .inr ⟨rfl, rfl⟩
  | cons call calls ih =>
      by_cases h : call.isStatement = true
      · exact .inl (by rw [List.cons_append, leading_of_statement h, leading_of_statement h])
      · have hnot : call.isStatement = false := by simpa using h
        rw [List.cons_append, leading_cons hnot, leading_cons hnot]
        rcases ih with ih | ⟨ih, ih'⟩
        · exact .inl (by rw [ih])
        · exact .inr ⟨by rw [ih], by rw [ih', List.cons_append]⟩

theorem LeadsIn.append {calls more : List Call} (h : LeadsIn calls) (h' : LeadsIn more) :
    LeadsIn (calls ++ more) := by
  intro call hcall
  rcases leading_append_cases calls more with hlead | ⟨hall, hlead⟩
  · rw [hlead] at hcall
    exact h call hcall
  · rw [hlead] at hcall
    rcases List.mem_append.mp hcall with hcall | hcall
    · rw [← hall] at hcall
      exact h call hcall
    · exact h' call hcall

namespace Driver

/-- The statements among calls to a driver, each with what the driver answers to it. -/
def exchanges (d : Driver) : List Call → List Exchange
  | [] => []
  | call :: calls =>
    if call.isStatement then
      { place := d.trace.length, call, answer := d.nextResponse, behind := leading calls } ::
        (d.hear call).exchanges calls
    else (d.hear call).exchanges calls

variable {d : Driver}

theorem exchanges_of_statement {call : Call} (h : call.isStatement = true) (calls : List Call) :
    d.exchanges (call :: calls) =
      { place := d.trace.length, call, answer := d.nextResponse, behind := leading calls } ::
        (d.hear call).exchanges calls := by
  rw [exchanges, if_pos h]

theorem exchanges_cons {call : Call} (h : call.isStatement = false) (calls : List Call) :
    d.exchanges (call :: calls) = (d.hear call).exchanges calls := by
  rw [exchanges, if_neg (by simp [h])]

/-- Calls of which none is a statement are passed over. -/
theorem exchanges_append_of_forall {calls : List Call}
    (h : ∀ call ∈ calls, call.isStatement = false) (more : List Call) :
    d.exchanges (calls ++ more) = (d.hearAll calls).exchanges more := by
  induction calls generalizing d with
  | nil => rfl
  | cons call calls ih =>
      obtain ⟨hcall, hcalls⟩ := List.forall_mem_cons.mp h
      rw [List.cons_append, exchanges_cons hcall, ih hcalls]
      rfl

theorem exchanges_eq_nil {calls : List Call} (h : ∀ call ∈ calls, call.isStatement = false) :
    d.exchanges calls = [] := by
  have hnone := exchanges_append_of_forall (d := d) h []
  rwa [List.append_nil] at hnone

/-- One statement among other calls. -/
theorem exchanges_of_one {front rest : List Call} {call : Call}
    (hfront : ∀ call ∈ front, call.isStatement = false) (hcall : call.isStatement = true)
    (hrest : ∀ call ∈ rest, call.isStatement = false) :
    d.exchanges (front ++ call :: rest) =
      [{ place := (d.hearAll front).trace.length, call
         answer := (d.hearAll front).nextResponse, behind := rest }] := by
  rw [exchanges_append_of_forall hfront, exchanges_of_statement hcall, leading_eq_self hrest,
    exchanges_eq_nil hrest]

/-- A statement stands where the calls in front of it end, and is answered with what comes next. -/
theorem of_mem_exchanges {x : Exchange} {calls : List Call} (h : x ∈ d.exchanges calls) :
    ∃ front rest, calls = front ++ x.call :: (x.behind ++ rest) ∧ x.call.isStatement = true ∧
      x.place = (d.hearAll front).trace.length ∧ x.answer = (d.hearAll front).nextResponse := by
  induction calls generalizing d with
  | nil => contradiction
  | cons call calls ih =>
      by_cases hcall : call.isStatement = true
      · rw [exchanges_of_statement hcall] at h
        rcases List.mem_cons.mp h with rfl | h
        · refine ⟨[], calls.dropWhile (!·.isStatement), ?_, hcall, rfl, rfl⟩
          rw [List.nil_append, leading, List.takeWhile_append_dropWhile]
        · obtain ⟨front, rest, hcalls, hstands⟩ := ih h
          exact ⟨call :: front, rest, by rw [hcalls, List.cons_append], hstands⟩
      · rw [exchanges_cons (by simpa using hcall)] at h
        obtain ⟨front, rest, hcalls, hstands⟩ := ih h
        exact ⟨call :: front, rest, by rw [hcalls, List.cons_append], hstands⟩

theorem place_of_mem_exchanges {x : Exchange} {calls : List Call} (h : x ∈ d.exchanges calls) :
    d.trace.length ≤ x.place ∧ x.place < d.trace.length + calls.length := by
  obtain ⟨front, rest, hcalls, -, hplace, -⟩ := of_mem_exchanges h
  rw [trace_hearAll, List.length_append] at hplace
  rw [hcalls, List.length_append, List.length_cons]
  omega

/-- More calls leave the statements as they are, but for what leads in to the next one. -/
theorem mem_exchanges_append {x : Exchange} {calls more : List Call}
    (h : x ∈ d.exchanges (calls ++ more)) :
    (∃ y ∈ d.exchanges calls, x = y ∨ x = y.extended (leading more)) ∨
      x ∈ (d.hearAll calls).exchanges more := by
  induction calls generalizing d with
  | nil => exact .inr h
  | cons call calls ih =>
      rw [List.cons_append] at h
      by_cases hcall : call.isStatement = true
      · rw [exchanges_of_statement hcall] at h ⊢
        rcases List.mem_cons.mp h with rfl | h
        · refine .inl ⟨_, List.mem_cons_self, ?_⟩
          rcases leading_append_cases calls more with hlead | ⟨hall, hlead⟩
          · exact .inl (by rw [hlead])
          · exact .inr (by rw [Exchange.extended, hlead, hall])
        · rcases ih h with ⟨y, hy, hsame⟩ | hmore
          · exact .inl ⟨y, List.mem_cons_of_mem _ hy, hsame⟩
          · exact .inr hmore
      · have hnot : call.isStatement = false := by simpa using hcall
        rw [exchanges_cons hnot] at h ⊢
        exact ih h

/-- What holds of statements one by one, and does not depend on what leads in behind them, holds of all
of them together. -/
theorem forall_exchanges_append {P : Exchange → Prop} {calls more : List Call}
    (hP : ∀ x, P x → P (x.extended (leading more))) (h : ∀ x ∈ d.exchanges calls, P x)
    (h' : ∀ x ∈ (d.hearAll calls).exchanges more, P x) :
    ∀ x ∈ d.exchanges (calls ++ more), P x := by
  intro x hx
  rcases mem_exchanges_append hx with ⟨y, hy, hsame | hmore⟩ | hx
  · rw [hsame]
    exact h y hy
  · rw [hmore]
    exact hP y (h y hy)
  · exact h' x hx

/-- The statements that a driver was handed until it came to be another one. -/
def exchangesUpTo (d d' : Driver) : List Exchange :=
  d.exchanges (d'.trace.drop d.trace.length)

@[simp] theorem exchangesUpTo_hearAll (calls : List Call) :
    d.exchangesUpTo (d.hearAll calls) = d.exchanges calls := by
  rw [exchangesUpTo, trace_hearAll, List.drop_left]

end Driver

/-! ## The statement of a use -/

namespace Channel

variable {ch : Channel} {calls : List Call} {reads cursorOpen : Bool} {o : Option Failure}

/-- The one statement that a use sends through a new cursor. -/
theorem exchanges_sent {call : Call} {more : List Call} {text : String}
    (htext : call.text? = some text) (hmore : ∀ call ∈ more, call.isStatement = false) :
    ch.connection.driver.exchanges (ch.opening ++ call :: more) =
      [{ place := ch.ready.trace.length, call, answer := ch.ready.nextResponse, behind := more }] :=
  Driver.exchanges_of_one (fun _ h => Call.isStatement_of_handlesCursor (ch.handlesCursor_opening _ h))
    (Call.isStatement_of_text? htext) hmore

/-- In front of a statement, a use only handles cursors. -/
theorem Effect.leadsIn (h : ch.Effect reads calls o cursorOpen) : LeadsIn calls := by
  have hsent {call : Call} {more : List Call} {text : String} (htext : call.text? = some text) :
      LeadsIn (ch.opening ++ call :: more) :=
    (leadsIn_of_handlesCursor ch.handlesCursor_opening).append
      (leadsIn_of_statement (Call.isStatement_of_text? htext) more)
  cases h with
  | idle => exact leadsIn_nil
  | closed => exact leadsIn_of_handlesCursor (by simp [Call.handlesCursor])
  | unopened => exact leadsIn_of_handlesCursor ch.handlesCursor_opening
  | unanswered => exact leadsIn_of_statement rfl []
  | asked => exact leadsIn_of_statement rfl [.fetchOne]
  | refused htext => exact hsent htext
  | unfetched hcall => exact hsent hcall.text?_eq
  | uncounted hcall => exact hsent hcall.text?_eq
  | done fetched hcall => exact hsent hcall.text?_eq

/-- Nothing fails at a statement that ran. -/
theorem fault?_finished {call : Call} {fetched : Bool} (hcall : ch.Accepts call)
    (hfetch : fetched = true → ch.ready.nextResponse.fetchFault = none) :
    Exchange.fault? { place := ch.ready.trace.length, call, answer := ch.ready.nextResponse
                      behind := ch.finishing reads fetched } = none := by
  cases fetched with
  | true => simp [Exchange.fault?, hcall.fault_eq, hfetch rfl]
  | false =>
      have hnone : (ch.finishing reads false).any Call.fetches = false := by
        cases reads with
        | true => rfl
        | false =>
            apply List.any_eq_false.mpr
            intro call hmem
            rw [Connection.eq_of_mem_commitCalls hmem]
            decide
      simp [Exchange.fault?, hcall.fault_eq, hnone]

end Channel

end RelationalMapper
