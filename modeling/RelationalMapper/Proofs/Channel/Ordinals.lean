import Mathlib.Data.List.GetD
import Mathlib.Data.List.Induction
import Mathlib.Data.List.Range
import RelationalMapper.Proofs.Channel.Handing
import RelationalMapper.Proofs.Channel.Use

/-! # Parameters by ordinal

However often and in whatever order ordinals are bound, the last value of each one counts. Without gaps
these values are sent or queued in the order of the ordinals; with gaps the statement is refused before
its driver hears of it. A queue is sent in one call, and it is given up only when that call succeeds. -/

namespace RelationalMapper

open RelationalMapper.Action

/-! ## Bindings -/

/-- Ordinals with the values that are bound to them one after the other. -/
abbrev Bindings := List (Int × Value)

namespace Bindings

/-- The value that was bound to an ordinal last. -/
def last? (binds : Bindings) (ordinal : Int) : Option Value := binds.reverse.lookup ordinal

/-- The largest ordinal, or zero if nothing is bound. -/
def largest (binds : Bindings) : Nat := (binds.map fun (ordinal, _) => ordinal.toNat).foldl max 0

/-- The ordinals from one to the largest. -/
def ordinals (binds : Bindings) : List Nat := List.range' 1 binds.largest

/-- The ordinals up to the largest to which nothing is bound. -/
def gaps (binds : Bindings) : List Nat := binds.ordinals.filter fun n : Nat => (binds.last? n).isNone

/-- Every ordinal is one that a value can be bound to. -/
def Positive (binds : Bindings) : Prop := ∀ ordinal value, (ordinal, value) ∈ binds → 1 ≤ ordinal

/-- Without gaps every ordinal has a value. -/
theorem map_some_filterMap (binds : Bindings) (h : binds.gaps = []) :
    (binds.ordinals.filterMap fun n : Nat => binds.last? n).map some =
      binds.ordinals.map fun n : Nat => binds.last? n := by
  rw [List.map_filterMap, ← List.filterMap_eq_map]
  refine List.filterMap_congr fun n hn => ?_
  have hsome := List.filter_eq_nil_iff.mp h n hn
  cases hvalue : binds.last? (n : Nat) with
  | none => simp [hvalue] at hsome
  | some value => exact congrArg some hvalue.symm

variable {binds binds' : Bindings} {ordinal : Int} {value : Value}

theorem Positive.of_append (h : Positive (binds ++ [(ordinal, value)])) :
    Positive binds ∧ 1 ≤ ordinal :=
  ⟨fun o v hmem => h o v (List.mem_append_left _ hmem), h ordinal value (by simp)⟩

theorem last?_append (binds : Bindings) (ordinal : Int) (value : Value) (n : Int) :
    last? (binds ++ [(ordinal, value)]) n = if n = ordinal then some value else binds.last? n := by
  rw [last?, List.reverse_append, List.reverse_singleton, List.singleton_append, List.lookup_cons]
  by_cases h : n = ordinal
  · simp [h]
  · simp [beq_false_of_ne h, h, last?]

theorem largest_append (binds : Bindings) (ordinal : Int) (value : Value) :
    largest (binds ++ [(ordinal, value)]) = max binds.largest ordinal.toNat := by
  simp [largest]

/-- Nothing is bound above the largest ordinal. -/
theorem last?_eq_none {n : Int} (h : binds.largest < n) : binds.last? n = none := by
  induction binds using List.reverseRecOn with
  | nil => rfl
  | append_singleton binds bind ih =>
      obtain ⟨ordinal, value⟩ := bind
      rw [largest_append] at h
      rw [last?_append, if_neg (by omega)]
      exact ih (by omega)

/-- The largest ordinal is bound, unless none is. -/
theorem isSome_last?_largest (hpos : binds.Positive) (hne : binds.largest ≠ 0) :
    (binds.last? binds.largest).isSome = true := by
  induction binds using List.reverseRecOn with
  | nil => exact absurd rfl hne
  | append_singleton binds bind ih =>
      obtain ⟨ordinal, value⟩ := bind
      obtain ⟨hbefore, hordinal⟩ := hpos.of_append
      rw [largest_append, last?_append]
      split
      · rfl
      · have hlargest : max (largest binds) ordinal.toNat = largest binds := by omega
        rw [hlargest]
        exact ih hbefore (by omega)

/-- Which ordinal is the largest is seen from the last values. -/
theorem largest_le_of_last? (hpos : binds.Positive)
    (h : ∀ n, binds.last? n = binds'.last? n) : binds.largest ≤ binds'.largest := by
  by_contra hlt
  have hsome := isSome_last?_largest hpos (by omega)
  rw [h, last?_eq_none (by omega)] at hsome
  contradiction

theorem largest_congr (hpos : binds.Positive) (hpos' : binds'.Positive)
    (h : ∀ n, binds.last? n = binds'.last? n) : binds.largest = binds'.largest :=
  le_antisymm (largest_le_of_last? hpos h) (largest_le_of_last? hpos' fun n => (h n).symm)

/-! ## Slots -/

/-- What a statement keeps of bindings. -/
def slots (binds : Bindings) : List (Option Value) := binds.ordinals.map fun n : Nat => binds.last? n

theorem length_slots (binds : Bindings) : binds.slots.length = binds.largest := by
  simp [slots, ordinals]

theorem getD_slots (binds : Bindings) (place : Nat) :
    binds.slots.getD place none = binds.last? (place + 1) := by
  by_cases h : place < binds.largest
  · rw [List.getD_eq_getElem _ _ (by rwa [length_slots])]
    simp [slots, ordinals, Nat.add_comm]
  · rw [List.getD_eq_default _ _ (by rw [length_slots]; omega), last?_eq_none (by omega)]

end Bindings

namespace Statement

theorem length_putSlot {α : Type} (slots : List (Option α)) (place : Nat) (a : α) :
    (putSlot slots place a).length = max slots.length (place + 1) := by
  fun_induction putSlot slots place a with
  | case1 => rfl
  | case2 n ih => simp [ih]
  | case3 s rest => simp
  | case4 s rest n ih => simp [ih]

theorem getD_putSlot {α : Type} (slots : List (Option α)) (place i : Nat) (a : α) :
    (putSlot slots place a).getD i none = if i = place then some a else slots.getD i none := by
  fun_induction putSlot slots place a generalizing i with
  | case1 => cases i <;> simp
  | case2 n ih => cases i <;> simp_all
  | case3 s rest => cases i <;> simp
  | case4 s rest n ih => cases i <;> simp_all

/-- One more binding changes the slot of its ordinal. -/
theorem putSlot_slots (binds : Bindings) {ordinal : Int} (h : 1 ≤ ordinal) (value : Value) :
    putSlot binds.slots (ordinal.toNat - 1) value =
      Bindings.slots (binds ++ [(ordinal, value)]) := by
  refine List.ext_getElem ?_ fun i hi hi' => ?_
  · rw [length_putSlot, Bindings.length_slots, Bindings.length_slots, Bindings.largest_append]
    omega
  · rw [← List.getD_eq_getElem _ none, ← List.getD_eq_getElem _ none, getD_putSlot,
      Bindings.getD_slots, Bindings.getD_slots, Bindings.last?_append]
    exact if_congr (by omega) rfl rfl

theorem unbound_map_range' (f : Nat → Option Value) (start count : Nat) :
    unbound start ((List.range' start count).map f) =
      (List.range' start count).filter fun n => (f n).isNone := by
  induction count generalizing start with
  | zero => rfl
  | succ count ih =>
      rw [List.range'_succ, List.map_cons, List.filter_cons]
      cases h : f start with
      | none => simp [unbound, ih]
      | some value => simp [unbound, ih]

/-- The values of the ordinals are at hand if there are no gaps, and the gaps are told otherwise. -/
theorem parameters_eq_of_slots {s : Statement} {binds : Bindings} (h : s.slots = binds.slots) :
    s.parameters = if binds.gaps = [] then .ok (binds.ordinals.filterMap fun n : Nat => binds.last? n)
      else .error (.argument (.unboundOrdinals binds.gaps)) := by
  have hunbound : unbound 1 s.slots = binds.gaps := by
    rw [h]
    exact unbound_map_range' (fun n : Nat => binds.last? n) 1 binds.largest
  rw [parameters, hunbound]
  split
  · rename_i hgaps
    rw [if_pos hgaps, h, Bindings.slots, List.filterMap_map]
    rfl
  · rename_i hgaps
    rw [if_neg hgaps]

end Statement

namespace Channel

open Statement (Use)
open Connection (Hands KeepsSilent)

variable {c : Connection} {s : Statement} {binds earlier : Bindings}

/-- Binds one value after the other. -/
def bindEach (binds : Bindings) : Action Channel Unit :=
  binds.forM fun (ordinal, value) => (Use.bind ordinal value).action

theorem perform_bind_slots (hslots : s.slots = earlier.slots) {ordinal : Int} (h : 1 ≤ ordinal)
    (value : Value) :
    (Use.bind ordinal value).action.perform ⟨c, s⟩ =
      (.ok (), ⟨c, { s with slots := Bindings.slots (earlier ++ [(ordinal, value)]) }⟩) := by
  have hbind : s.bind ordinal value =
      .ok { s with slots := Bindings.slots (earlier ++ [(ordinal, value)]) } := by
    rw [Statement.bind, if_neg (by omega), hslots, Statement.putSlot_slots earlier h]
  simp [Use.action, changeIfPossible, perform_bind, hbind, perform_change]

/-- A statement keeps the last value of each ordinal, behind those that were bound earlier. -/
theorem perform_bindEach (hslots : s.slots = earlier.slots) (hpos : binds.Positive) :
    (bindEach binds).perform ⟨c, s⟩ =
      (.ok (), ⟨c, { s with slots := Bindings.slots (earlier ++ binds) }⟩) := by
  -- What is bound so far grows: the slots are always those of all bindings together.
  induction binds generalizing earlier s with
  | nil =>
      rw [List.append_nil, ← hslots]
      rfl
  | cons bind binds ih =>
      obtain ⟨ordinal, value⟩ := bind
      have hfirst := perform_bind_slots (c := c) hslots (hpos ordinal value List.mem_cons_self) value
      have hrest := ih (s := { s with slots := Bindings.slots (earlier ++ [(ordinal, value)]) }) rfl
        fun o v hmem => hpos o v (List.mem_cons_of_mem _ hmem)
      rw [List.append_assoc] at hrest
      exact (perform_bind_ok hfirst).trans hrest

/-- A fresh statement keeps the last value of each ordinal. -/
theorem perform_bindEach_fresh (hslots : s.slots = []) (hpos : binds.Positive) :
    (bindEach binds).perform ⟨c, s⟩ = (.ok (), ⟨c, { s with slots := binds.slots }⟩) := by
  have hfresh : s.slots = Bindings.slots [] := hslots
  exact perform_bindEach hfresh hpos

/-- What is done behind bindings is done with the values that are kept of them. -/
theorem perform_bindEach_bind {α : Type} (hslots : s.slots = []) (hpos : binds.Positive)
    (a : Action Channel α) :
    (bindEach binds >>= fun _ => a).perform ⟨c, s⟩ =
      a.perform ⟨c, { s with slots := binds.slots }⟩ :=
  perform_bind_ok (perform_bindEach_fresh hslots hpos)

/-- Bindings with the same last values leave the same statement. -/
theorem perform_bindEach_congr {binds' : Bindings} (hslots : s.slots = []) (hpos : binds.Positive)
    (hpos' : binds'.Positive) (h : ∀ n, binds'.last? n = binds.last? n) :
    (bindEach binds').perform ⟨c, s⟩ = (bindEach binds).perform ⟨c, s⟩ := by
  have hsame : binds'.slots = binds.slots := by
    rw [Bindings.slots, Bindings.slots, Bindings.ordinals, Bindings.ordinals,
      Bindings.largest_congr hpos' hpos h]
    exact List.map_congr_left fun n _ => h n
  rw [perform_bindEach_fresh hslots hpos', perform_bindEach_fresh hslots hpos, hsame]

/-- The uses of a statement for which its parameters are put in order. -/
def orderingUses : List Use := [.executeQuery, .executeUpdate, .addBatch]

/-- Without its parameters a statement is neither sent nor queued. -/
theorem perform_of_parameters_error {e : Failure} (h : s.parameters = .error e) :
    ∀ use ∈ orderingUses, use.action.perform ⟨c, s⟩ = (.error e, ⟨c, s⟩) := by
  have honce : executeOnce.perform ⟨c, s⟩ = (.error e, ⟨c, s⟩) := by
    simp [executeOnce, perform_bind, h]
  intro use huse
  simp only [orderingUses, List.mem_cons, List.not_mem_nil, or_false] at huse
  rcases huse with rfl | rfl | rfl
  · exact perform_bind_error (perform_bind_error honce)
  · exact perform_bind_error (perform_bind_error honce)
  · simp [Use.action, changeIfPossible, perform_bind, Statement.addBatch, h, Except.map]

/-- The parameters of a statement are sent, unless its driver opens no cursor. -/
theorem hands_of_parameters {params : List Value} (hcursor : s.cursor = none)
    (h : s.parameters = .ok params) :
    ∀ use ∈ [Use.executeQuery, .executeUpdate],
      Hands (c.handing (executeCall c s params)) c (use.action.perform ⟨c, s⟩).2.connection := by
  intro use huse
  rcases List.mem_pair.mp huse with rfl | rfl
  · rw [Use.action, perform_forget, executeQuery_eq]
    exact hands_executeOnce hcursor h silent_finishQuery
  · rw [Use.action, perform_forget, executeUpdate_eq]
    exact hands_executeOnce hcursor h silent_finishUpdate

/-! ## Queues -/

/-- What is done with the answer to a queue of this many sets. -/
def finishBatch (sets : Nat) (answer : Response) : Action Channel Int := do
  change fun s => { s with batch := [], rowCount := batchCount answer sets }
  onConnection Connection.commitUnlessInTransaction
  return batchCount answer sets

variable {ch : Channel}

/-- The call by which a queue is sent. -/
def queueCall (ch : Channel) : Call := .executeMany ch.driverText (ch.statement.batch.map ch.bound)

theorem perform_executeBatch_eq (h : ch.statement.batch ≠ []) :
    executeBatch.perform ch =
      (transmit ch.queueCall >>= finishBatch ch.statement.batch.length).perform ch := by
  rw [executeBatch, perform_bind_ok (perform_get ch)]
  simp only [h, if_false]
  rfl

/-- The refusal of a new cursor, or to close the old one. -/
def cursorRefusal? (ch : Channel) : Option Fault := ch.closeRefusal?.or ch.openRefusal?

/-- How a queue is sent: in one call with its sets in their order, unless there is no cursor for it. It
is empty behind a call that succeeded, whatever comes after it, and as it was otherwise. -/
structure SendsQueue (ch : Channel) (r : Except Failure Int) (ch' : Channel) : Prop where
  hands : Hands (if ch.cursorRefusal?.isSome then [] else [ch.queueCall]) ch.connection ch'.connection
  emptied : ch.cursorRefusal? = none → ch.connection.driver.nextResponse.fault = none →
    ch'.statement.batch = []
  kept : ∀ f, ch.cursorRefusal?.or ch.connection.driver.nextResponse.fault = some f →
    ch'.statement.batch = ch.statement.batch ∧ ∃ e, r = .error e

section SendsQueue

variable {ch' : Channel} {calls : List Call} {e : Failure} {f : Fault}

theorem hands_of_heard (h : ch.Heard calls ch') :
    Hands (calls.filter Call.isStatement) ch.connection ch'.connection :=
  ⟨calls, by rw [h.connection.driver_eq, Driver.trace_hearAll], rfl⟩

theorem filter_isStatement_of_handlesCursor (h : ∀ call ∈ calls, call.handlesCursor = true) :
    calls.filter Call.isStatement = [] := by
  refine List.filter_eq_nil_iff.mpr fun call hcall => ?_
  simp [Call.isStatement_of_handlesCursor (h call hcall)]

/-- Without a cursor nothing is sent. -/
theorem sendsQueue_of_cursorRefusal? (hrefusal : ch.cursorRefusal? = some f)
    (hheard : ch.Heard calls ch') (hcalls : ∀ call ∈ calls, call.handlesCursor = true)
    (hbatch : ch'.statement.batch = ch.statement.batch) : ch.SendsQueue (.error e) ch' where
  hands := by
    have hands := hands_of_heard hheard
    rw [filter_isStatement_of_handlesCursor hcalls] at hands
    simpa [hrefusal] using hands
  emptied hnone := by simp [hrefusal] at hnone
  kept _ _ := ⟨hbatch, e, rfl⟩

/-- Through a new cursor the queue is sent, and the calls behind it send nothing more. -/
theorem hands_queueCall (hrefusal : ch.cursorRefusal? = none) {behind : List Call}
    (hheard : ch.Heard (ch.opening ++ ch.queueCall :: behind) ch')
    (hbehind : behind.filter Call.isStatement = []) :
    Hands (if ch.cursorRefusal?.isSome then [] else [ch.queueCall]) ch.connection
      ch'.connection := by
  have hands := hands_of_heard hheard
  rw [List.filter_append, filter_isStatement_of_handlesCursor ch.handlesCursor_opening,
    List.filter_cons_of_pos (by rfl), hbehind] at hands
  simpa [hrefusal] using hands

theorem heard_queueCall (ch : Channel) (behind : List Call) :
    ch.Heard (ch.opening ++ ch.queueCall :: behind)
      ((ch.opened.hearAll [ch.queueCall]).hearAll behind) := by
  have hheard := (ch.heard_opened.trans (heard_hearAll ch.opened [ch.queueCall])).trans
    (heard_hearAll (ch.opened.hearAll [ch.queueCall]) behind)
  rwa [List.append_assoc] at hheard

/-- Behind a call that succeeded the queue is empty, even if the commit fails. -/
theorem sendsQueue_of_answered (hclose : ch.closeRefusal? = none) (hopen : ch.openRefusal? = none)
    (hfault : ch.ready.nextResponse.fault = none) :
    ch.SendsQueue
      ((transmit ch.queueCall >>= finishBatch ch.statement.batch.length).perform ch).1
      ((transmit ch.queueCall >>= finishBatch ch.statement.batch.length).perform ch).2 := by
  have hrefusal : ch.cursorRefusal? = none := by rw [cursorRefusal?, hclose, hopen]; rfl
  have hcall : ch.queueCall.isStatement = true := rfl
  have hsent := perform_transmit_of_answered hclose hopen hcall hfault
  generalize hanswer : ch.ready.nextResponse = answer at hsent
  have hrun := (perform_bind_ok (f := finishBatch ch.statement.batch.length) hsent).trans
    ((perform_bind_ok (perform_change _ _)).trans (perform_committed _ _))
  rw [hrun]
  have hheard := ch.heard_queueCall ch.connection.commitCalls
  refine ⟨hands_queueCall hrefusal ⟨⟨rfl, rfl, hheard.connection.driver_eq⟩, rfl, rfl⟩
    (Connection.filter_isStatement_commitCalls _), fun _ _ => rfl, fun f hf => ?_⟩
  rw [hrefusal, Option.none_or, ← ch.nextResponse_ready, hfault] at hf
  contradiction

theorem sendsQueue_executeBatch (h : ch.statement.batch ≠ []) :
    ch.SendsQueue (executeBatch.perform ch).1 (executeBatch.perform ch).2 := by
  rw [perform_executeBatch_eq h]
  cases hclose : ch.closeRefusal? with
  | some f =>
      have hrefusal : ch.cursorRefusal? = some f := by rw [cursorRefusal?, hclose]; rfl
      rw [perform_bind_error (perform_transmit_of_unclosed hclose ch.queueCall)]
      have hheard : ch.Heard ch.closing (ch.hearAll ch.closing).shut := ⟨⟨rfl, rfl, rfl⟩, rfl, rfl⟩
      exact sendsQueue_of_cursorRefusal? hrefusal hheard ch.handlesCursor_closing rfl
  | none =>
      cases hopen : ch.openRefusal? with
      | some f =>
          have hrefusal : ch.cursorRefusal? = some f := by rw [cursorRefusal?, hclose, hopen]; rfl
          rw [perform_bind_error (perform_transmit_of_unopened hclose hopen ch.queueCall)]
          have hheard : ch.Heard ch.opening ((ch.hearAll ch.closing).shut.hearAll [.openCursor]) :=
            ⟨⟨rfl, rfl, ch.driver_opened⟩, rfl, rfl⟩
          exact sendsQueue_of_cursorRefusal? hrefusal hheard ch.handlesCursor_opening rfl
      | none =>
          cases hfault : ch.ready.nextResponse.fault with
          | none => exact sendsQueue_of_answered hclose hopen hfault
          | some f =>
              have hrefusal : ch.cursorRefusal? = none := by
                rw [cursorRefusal?, hclose, hopen]
                rfl
              have hheard := ch.heard_queueCall ch.connection.rollbackCalls
              have hcall : ch.queueCall.isStatement = true := rfl
              rw [perform_bind_error (perform_transmit_of_refused hclose hopen hcall hfault)]
              refine ⟨hands_queueCall hrefusal
                ⟨⟨rfl, rfl, hheard.connection.driver_eq⟩, rfl, rfl⟩
                (Connection.filter_isStatement_rollbackCalls _), fun _ hnone => ?_,
                fun _ _ => ⟨rfl, _, rfl⟩⟩
              rw [← ch.nextResponse_ready, hfault] at hnone
              contradiction

end SendsQueue

/-! ## What counts of bindings -/

/-- Bindings count through the last value of each ordinal alone. Without gaps these values are the
parameters, in the order of the ordinals, with which the statement is sent or which are queued; with
gaps it is refused, the gaps are told in increasing order, and its connection is left as it was. A queue
is sent as a whole. -/
theorem binds_by_ordinal (c : Connection) {s : Statement} (hslots : s.slots = [])
    (hcursor : s.cursor = none) {binds : Bindings} (hpos : binds.Positive) :
    (binds.gaps = [] → ∃ params : List Value,
      params.map some = binds.ordinals.map (fun n : Nat => binds.last? n) ∧
      (∀ use ∈ [Use.executeQuery, .executeUpdate],
        Hands (c.handing (c.sending s.sql params)) c
          ((bindEach binds >>= fun _ => use.action).perform ⟨c, s⟩).2.connection) ∧
      (bindEach binds >>= fun _ => Use.addBatch.action).perform ⟨c, s⟩ =
        (.ok (), ⟨c, { s with batch := s.batch ++ [params] }⟩)) ∧
    (binds.gaps ≠ [] → ∀ use ∈ orderingUses,
      ((bindEach binds >>= fun _ => use.action).perform ⟨c, s⟩).1 =
          .error (.argument (.unboundOrdinals binds.gaps)) ∧
        ((bindEach binds >>= fun _ => use.action).perform ⟨c, s⟩).2.connection = c) ∧
    (∀ binds' : Bindings, binds'.Positive → (∀ n, binds'.last? n = binds.last? n) →
      (bindEach binds').perform ⟨c, s⟩ = (bindEach binds).perform ⟨c, s⟩) ∧
    ∀ ch : Channel, ch.statement.batch ≠ [] →
      ch.SendsQueue (executeBatch.perform ch).1 (executeBatch.perform ch).2 := by
  have hparams := Statement.parameters_eq_of_slots (s := { s with slots := binds.slots }) rfl
  refine ⟨fun hgaps => ?_, fun hgaps use huse => ?_, fun binds' hpos' h =>
    perform_bindEach_congr hslots hpos hpos' h, fun ch => sendsQueue_executeBatch⟩
  · rw [if_pos hgaps] at hparams
    refine ⟨_, binds.map_some_filterMap hgaps, fun use huse => ?_, ?_⟩
    · rw [perform_bindEach_bind hslots hpos]
      exact hands_of_parameters (s := { s with slots := binds.slots }) hcursor hparams use huse
    · rw [perform_bindEach_bind hslots hpos]
      simp [Use.action, changeIfPossible, perform_bind, Statement.addBatch, hparams, Except.map,
        perform_change, hslots]
  · rw [if_neg hgaps] at hparams
    rw [perform_bindEach_bind hslots hpos, perform_of_parameters_error hparams use huse]
    exact ⟨rfl, rfl⟩

/-- The second ordinal is bound twice, and the first one between. -/
def overwritingBinds : Bindings :=
  [(2, .scalar (.int 7)), (1, .scalar (.int 5)), (2, .scalar (.int 8))]

/-- Nothing is bound to the first and the third ordinal. -/
def gappedBinds : Bindings := [(4, .scalar (.int 7)), (2, .scalar (.int 5))]

/-- A statement with two marks, one set of parameters in its queue, and nothing bound. -/
def unboundPlace : Channel :=
  ⟨{ dialect := .sqlite },
    { sql := "UPDATE t SET a = ? WHERE b = ?", operation := "update",
      batch := [[.scalar (.int 1), .scalar (.int 2)]] }⟩

theorem binds_by_ordinal_overwriting :
    overwritingBinds.Positive ∧ overwritingBinds.gaps = [] ∧
      Hands [.execute "UPDATE t SET a = ? WHERE b = ?"
          (some [.scalar (.int 5), .scalar (.int 8)])] unboundPlace.connection
        ((bindEach overwritingBinds >>= fun _ => Use.executeUpdate.action).perform
          unboundPlace).2.connection ∧
      gappedBinds.Positive ∧ gappedBinds.gaps = [1, 3] ∧
      ((bindEach gappedBinds >>= fun _ => Use.executeQuery.action).perform unboundPlace).1 =
        .error (.argument (.unboundOrdinals [1, 3])) ∧
      (bindEach [(1, .scalar (.int 5)), (2, .scalar (.int 8))]).perform unboundPlace =
        (bindEach overwritingBinds).perform unboundPlace ∧
      unboundPlace.statement.batch ≠ [] ∧
      (executeBatch.perform unboundPlace).2.statement.batch = [] := by
  have hpos : overwritingBinds.Positive := by
    intro ordinal value h
    simp [overwritingBinds] at h
    omega
  have hpos' : Bindings.Positive [(1, .scalar (.int 5)), (2, .scalar (.int 8))] := by
    intro ordinal value h
    simp at h
    omega
  have hgapped : gappedBinds.Positive := by
    intro ordinal value h
    simp [gappedBinds] at h
    omega
  have hgaps : overwritingBinds.gaps = [] := by decide
  have hgaps' : gappedBinds.gaps = [1, 3] := by decide
  obtain ⟨hsent, -, hcongr, hqueue⟩ :=
    binds_by_ordinal unboundPlace.connection (s := unboundPlace.statement) rfl rfl hpos
  obtain ⟨-, hrefused, -⟩ :=
    binds_by_ordinal unboundPlace.connection (s := unboundPlace.statement) rfl rfl hgapped
  refine ⟨hpos, hgaps, ?_, hgapped, hgaps', ?_, ?_, by decide, ?_⟩
  · obtain ⟨params, hparams, hhands, -⟩ := hsent hgaps
    have hvalues : params = [.scalar (.int 5), .scalar (.int 8)] := by
      apply List.map_injective_iff.mpr fun _ _ => Option.some.inj
      rw [hparams]
      decide
    rw [hvalues] at hhands
    exact hhands .executeUpdate (by decide)
  · have h := (hrefused (by rw [hgaps']; decide) .executeQuery (by decide)).1
    rwa [hgaps'] at h
  · refine hcongr _ hpos' fun n => ?_
    by_cases h1 : n = 1
    · rw [h1]
      rfl
    · by_cases h2 : n = 2
      · rw [h2]
        rfl
      · simp [Bindings.last?, overwritingBinds, List.lookup_cons, beq_false_of_ne h1,
          beq_false_of_ne h2]
  · exact (hqueue unboundPlace (by decide)).emptied rfl rfl

end Channel

end RelationalMapper
