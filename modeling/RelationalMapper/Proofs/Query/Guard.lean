import RelationalMapper.Proofs.Bulk.Partition
import RelationalMapper.Proofs.Query.Reached

/-! # The guard of updates and deletions

An update or a deletion without a condition would reach every row. A query counts the tests that it is
asked for, and writes nothing as long as there are none. The count and the condition keep in step
unless the values of a test cannot be listed, which is found out after the test was counted. -/

namespace RelationalMapper

open RelationalMapper.Action

/-! ## Tests that are added -/

/-- The failure to list the elements of a value that has none. -/
def unlistable : Failure := .wrongType "a single value has no elements"

theorem Value.eq_unlistable {v : Value} {e : Failure} (h : v.elements = .error e) :
    e = unlistable := by
  unfold elements at h
  split at h
  · cases h
  · split at h
    · cases h
    · split at h
      · cases h
      · cases h
      · cases h
      · exact (Except.error.inj h).symm

namespace Condition

variable {τ : Type}

theorem mem_tests {c : Condition τ} {t : τ} (h : t ∈ c.tests) :
    ∃ before after, c = before ++ .test t :: after := by
  obtain ⟨piece, hpiece, ht⟩ := List.mem_filterMap.mp h
  obtain rfl : piece = .test t := by
    cases piece with
    | test t' => exact congrArg Piece.test (Option.some.inj ht)
    | _ => cases ht
  exact List.append_of_mem hpiece

theorem text_append (render : τ → String) (c c' : Condition τ) :
    text render (c ++ c') = text render c ++ text render c' := by
  rw [text, List.map_append, Text.joined_empty_append]
  rfl

theorem text_cons (render : τ → String) (piece : Piece τ) (c : Condition τ) :
    text render (piece :: c) = piece.text render ++ text render c :=
  Text.joined_empty_cons ..

theorem tests_append (c c' : Condition τ) : tests (c ++ c') = tests c ++ tests c' :=
  List.filterMap_append

@[simp] theorem tests_connected (c : Condition τ) : tests c.connected = tests c := by
  unfold connected
  split
  · rw [tests_append]
    exact List.append_nil _
  · rfl

@[simp] theorem tests_addTest (c : Condition τ) (t : τ) : tests (c.addTest t) = tests c ++ [t] := by
  rw [addTest, tests_append, tests_connected]
  rfl

end Condition

namespace Query

/-- As many tests were counted as the condition has. -/
def Counted (q : Query) : Prop := q.tests = q.condition.tests.length

/-- The query asks for one more test. -/
def addTest (q : Query) (t : Test) : Query :=
  { q with tests := q.tests + 1, condition := q.condition.addTest t }

theorem perform_compare (property : String) (op : Comparison) (value : Value)
    (entity : Option EntityClass) (q : Query) :
    (addFilter (.compare property op value entity)).perform q =
      match q.column entity property with
      | .ok column => (.ok (), q.addTest (.comparison column op value))
      | .error e => (.error e, q) := by
  simp only [addFilter, perform_bind, perform_get, perform_ofExcept]
  cases q.column entity property with
  | ok column => rfl
  | error e => rfl

/-- A test of a value without elements has been counted when it fails. -/
theorem perform_among (property : String) (values : Value) (entity : Option EntityClass)
    (q : Query) :
    (addFilter (.among property values entity)).perform q =
      match q.column entity property, values.elements with
      | .ok column, .ok items => (.ok (), q.addTest (.among column items))
      | .ok _, .error e => (.error e,
          { q with tests := q.tests + 1, condition := q.condition.connected })
      | .error e, _ => (.error e, q) := by
  simp only [addFilter, perform_bind, perform_get, perform_ofExcept]
  cases q.column entity property with
  | ok column =>
      cases values.elements with
      | ok items => rfl
      | error e => rfl
  | error e => rfl

theorem Counted.addTest {q : Query} (h : q.Counted) (t : Test) : (q.addTest t).Counted := by
  rw [Counted] at h ⊢
  simp [Query.addTest, h]

/-- A step adds its test if it succeeds. -/
theorem Counted.filterStep {step : Piece FilterTest} {q q' : Query} {r : Except Failure Unit}
    (h : q.Counted) (hrun : (filterStep step).perform q = (r, q')) (hr : r ≠ .error unlistable) :
    q'.Counted ∧ q'.condition.tests.length =
      q.condition.tests.length + if r.isOk then step.test?.toList.length else 0 := by
  have hadded (t : Test) : (q.addTest t).Counted ∧
      (q.addTest t).condition.tests.length = q.condition.tests.length + 1 :=
    ⟨h.addTest t, by simp [Query.addTest]⟩
  have hkept (piece : Piece Test) (hpiece : piece.test? = none) :
      Counted { q with condition := q.condition ++ [piece] } ∧
        (q.condition ++ [piece]).tests.length = q.condition.tests.length := by
    have htests : Condition.tests [piece] = [] := by simp [Condition.tests, hpiece]
    rw [Counted] at h ⊢
    simp [Condition.tests_append, htests, h]
  cases step with
  | test t =>
      cases t with
      | compare property op value entity =>
          rw [Query.filterStep, perform_compare] at hrun
          cases hcolumn : q.column entity property with
          | ok column =>
              simp only [hcolumn, Prod.mk.injEq] at hrun
              obtain ⟨rfl, rfl⟩ := hrun
              exact hadded _
          | error e =>
              simp only [hcolumn, Prod.mk.injEq] at hrun
              obtain ⟨rfl, rfl⟩ := hrun
              exact ⟨h, rfl⟩
      | among property values entity =>
          rw [Query.filterStep, perform_among] at hrun
          cases hcolumn : q.column entity property with
          | ok column =>
              cases hitems : values.elements with
              | ok items =>
                  simp only [hcolumn, hitems, Prod.mk.injEq] at hrun
                  obtain ⟨rfl, rfl⟩ := hrun
                  exact hadded _
              | error e =>
                  simp only [hcolumn, hitems, Prod.mk.injEq] at hrun
                  rw [← hrun.1, Value.eq_unlistable hitems] at hr
                  exact absurd rfl hr
          | error e =>
              simp only [hcolumn, Prod.mk.injEq] at hrun
              obtain ⟨rfl, rfl⟩ := hrun
              exact ⟨h, rfl⟩
  | _ =>
      obtain ⟨rfl, rfl⟩ := Prod.mk.inj hrun
      exact hkept _ rfl

/-! ## Runs of steps and calls -/

/-- How many tests the steps add before one of them fails. -/
def added (q : Query) : List (Piece FilterTest) → Nat
  | [] => 0
  | step :: steps =>
    match (Query.filterStep step).perform q with
    | (.ok _, q') => step.test?.toList.length + q'.added steps
    | (.error _, _) => 0

/-- The steps add up, unless one of them cannot list its values. -/
theorem Counted.filterSteps {steps : List (Piece FilterTest)} {q q' : Query}
    {r : Except Failure Unit} (h : q.Counted)
    (hrun : (steps.forM Query.filterStep).perform q = (r, q')) (hr : r ≠ .error unlistable) :
    q'.Counted ∧ q'.condition.tests.length = q.condition.tests.length + q.added steps := by
  induction steps generalizing q with
  | nil =>
      obtain ⟨rfl, rfl⟩ := Prod.mk.inj hrun
      exact ⟨h, rfl⟩
  | cons step steps ih =>
      change (Query.filterStep step >>= fun _ => steps.forM Query.filterStep).perform q = _ at hrun
      rw [perform_bind] at hrun
      rcases hstep : (Query.filterStep step).perform q with ⟨e | u, next⟩
      · rw [hstep] at hrun
        obtain ⟨rfl, rfl⟩ := Prod.mk.inj hrun
        obtain ⟨hcounted, hlength⟩ := h.filterStep hstep hr
        exact ⟨hcounted, by simpa [added, hstep, Except.isOk, Except.toBool] using hlength⟩
      · rw [hstep] at hrun
        obtain ⟨hcounted, hlength⟩ := h.filterStep hstep nofun
        obtain ⟨hcounted', hlength'⟩ := ih hcounted hrun
        refine ⟨hcounted', ?_⟩
        rw [hlength', hlength]
        simp [added, hstep, Except.isOk, Except.toBool, Nat.add_assoc]

theorem Counted.filter {steps : List (Piece FilterTest)} {q q' : Query} {r : Except Failure Unit}
    (h : q.Counted) (hrun : (filter steps).perform q = (r, q')) (hr : r ≠ .error unlistable) :
    q'.Counted ∧ q'.condition.tests.length =
      q.condition.tests.length + if q.executed then 0 else q.added steps := by
  by_cases hexecuted : q.executed = true
  · rw [Query.filter, perform_bind_error (checkOpen_of_executed hexecuted)] at hrun
    obtain ⟨-, rfl⟩ := Prod.mk.inj hrun
    exact ⟨h, by simp [hexecuted]⟩
  · rw [Query.filter, perform_bind_ok (checkOpen_of_open (by simpa using hexecuted))] at hrun
    simpa [hexecuted] using h.filterSteps hrun hr

end Query

/-- How many tests the call adds to the query. -/
def FluentCall.added (q : Query) : FluentCall → Nat
  | .filter steps => if q.executed then 0 else q.added steps
  | _ => 0

namespace Query

/-- A call adds its tests, unless it is a filter that cannot list the values of one. -/
theorem Counted.action {call : FluentCall} {s s' : Session} {q q' : Query}
    {r : Except Failure Unit} (h : q.Counted)
    (hrun : call.action.perform (s, q) = (r, (s', q'))) (hr : r ≠ .error unlistable) :
    q'.Counted ∧ q'.condition.tests.length = q.condition.tests.length + call.added q := by
  by_cases hfilter : ∃ steps, call = .filter steps
  · obtain ⟨steps, rfl⟩ := hfilter
    rw [FluentCall.action, perform_second, Prod.mk.injEq, Prod.mk.injEq] at hrun
    obtain ⟨hresult, -, hleft⟩ := hrun
    exact h.filter (Prod.ext hresult hleft) hr
  · have hspared := spares_action call (s, q)
    rw [hrun] at hspared
    obtain ⟨htests, hcondition⟩ := hspared.condition_eq fun steps hsteps => hfilter ⟨steps, hsteps⟩
    have hadded : call.added q = 0 := by
      cases call with
      | filter steps => exact absurd ⟨steps, rfl⟩ hfilter
      | _ => rfl
    simp only at htests hcondition
    rw [Counted, htests, hcondition, hadded]
    exact ⟨h, rfl⟩

/-! ## Queries with tests -/

/-- The query comes from calls whose outcomes are admitted, and this many tests were added on the
way. -/
inductive Compared (admits : Except Failure Unit → Prop) : Nat → Query → Prop where
  | start {type : EntityClass} {s s' : Session} {q : Query}
      (hrun : (Session.query type).perform s = (.ok q, s')) : Compared admits 0 q
  | call {n : Nat} {call : FluentCall} {s s' : Session} {q q' : Query} {r : Except Failure Unit}
      (hq : Compared admits n q) (hrun : call.action.perform (s, q) = (r, (s', q')))
      (hr : admits r) : Compared admits (n + call.added q) q'

/-- The call did not fail to list the values of a test. -/
def listing (r : Except Failure Unit) : Prop := r ≠ .error unlistable

theorem Compared.counted {n : Nat} {q : Query} (h : Compared listing n q) :
    q.Counted ∧ q.condition.tests.length = n := by
  induction h with
  | start hrun =>
      obtain ⟨d, base, rfl⟩ := eq_start_of_query hrun
      exact ⟨rfl, rfl⟩
  | call hq hrun hr ih =>
      obtain ⟨hcounted, hlength⟩ := ih
      obtain ⟨hcounted', hlength'⟩ := hcounted.action hrun hr
      exact ⟨hcounted', by rw [hlength', hlength]⟩

/-! ## Writing -/

/-- The calls that write through a query. -/
inductive Mutation where
  | update (assignments : Option (List (String × Value)))
  | delete
  deriving DecidableEq, Inhabited

namespace Mutation

def operation : Mutation → String
  | update _ => TableMap.updateOperation
  | delete => TableMap.deleteOperation

def compile : Mutation → Query → Except Failure Compiled
  | update assignments => (·.updateStatement assignments)
  | delete => deleteStatement

def action : Mutation → Action (Session × Query) Int
  | update assignments => Query.update assignments
  | delete => Query.delete

/-- What stands in front of the condition. -/
def lead (q : Query) : Mutation → String
  | update assignments => "UPDATE " ++ q.dialect.quote q.base.table ++ " SET "
      ++ Text.joined ", " ((assignments.getD []).map fun (property, _) => q.assignmentText property)
  | delete => "DELETE FROM " ++ q.dialect.quote q.base.table

/-- The call is refused as a misuse, and nothing happens. -/
def Refused (m : Mutation) (s : Session) (q : Query) : Prop :=
  ∃ cause, m.action.perform (s, q) = (.error (.misuse cause), (s, q))

/-- The call is a statement with a condition of which a test is a part. -/
def Tested (m : Mutation) (s : Session) (q : Query) : Prop :=
  ∃ st before t after, m.compile q = .ok st ∧ q.condition = before ++ .test t :: after ∧
    st.sql = m.lead q ++ " WHERE " ++ Condition.text (Test.text q.dialect) before ++
      t.text q.dialect ++ Condition.text (Test.text q.dialect) after ∧
    m.action.perform (s, q) =
      let left := (Session.onConnection
        (Connection.execute st.sql st.params m.operation)).perform s
      (left.1, (left.2, { q with executed := true }))

theorem action_eq (m : Mutation) : m.action = write m.operation m.compile := by
  cases m <;> rfl

theorem perform_action (m : Mutation) (s : Session) {q : Query} (h : q.executed = false) :
    m.action.perform (s, q) = match m.compile q with
      | .error e => (.error e, (s, q))
      | .ok st =>
        let left := (Session.onConnection
          (Connection.execute st.sql st.params m.operation)).perform s
        (left.1, (left.2, { q with executed := true })) := by
  have hopen := checkOpen_of_open h
  have huse : use.perform q = (.ok (), { q with executed := true }) := by
    rw [use, perform_bind_ok hopen]
    rfl
  rw [m.action_eq]
  simp only [write, perform_bind, perform_second, hopen, perform_get, perform_ofExcept]
  cases m.compile q with
  | error e => rfl
  | ok st => simp [huse]

theorem refused_of_executed (m : Mutation) (s : Session) {q : Query} (h : q.executed = true) :
    m.Refused s q := by
  have hopen := checkOpen_of_executed h
  refine ⟨.alreadyExecuted q.base.type.name, ?_⟩
  rw [m.action_eq, write, perform_bind, perform_second, hopen]

theorem compile_update (q : Query) (given : List (String × Value)) :
    compile (.update (some given)) q =
      if q.tests = 0 then .error (.misuse (.emptyWhere "update"))
      else if given = [] then .error (.misuse .emptySet)
      else .ok ⟨lead q (.update (some given)) ++ " WHERE " ++ q.conditionText,
        given.map (·.2) ++ q.params⟩ := by
  by_cases htests : q.tests = 0
  · simp [compile, updateStatement, checkGuarded, htests, bind, Except.bind]
  · by_cases hgiven : given = [] <;>
      simp [compile, updateStatement, checkGuarded, htests, hgiven, bind, Except.bind, pure,
        Except.pure, lead]

theorem compile_delete (q : Query) :
    compile .delete q =
      if q.tests = 0 then .error (.misuse (.emptyWhere "delete"))
      else .ok ⟨lead q .delete ++ " WHERE " ++ q.conditionText, q.params⟩ := by
  by_cases htests : q.tests = 0 <;>
    simp [compile, deleteStatement, checkGuarded, htests, bind, Except.bind, pure, Except.pure,
      lead]

/-- A statement needs a test that was counted, and whatever is not compiled is a misuse. -/
theorem compile_cases (m : Mutation) (q : Query) :
    (∃ cause, m.compile q = .error (.misuse cause)) ∨ q.tests ≠ 0 ∧
      ∃ params, m.compile q = .ok ⟨m.lead q ++ " WHERE " ++ q.conditionText, params⟩ := by
  cases m with
  | update assignments =>
      cases assignments with
      | none => exact .inl ⟨_, rfl⟩
      | some given =>
          rw [compile_update]
          split
          · exact .inl ⟨_, rfl⟩
          · rename_i htests
            split
            · exact .inl ⟨_, rfl⟩
            · exact .inr ⟨htests, _, rfl⟩
  | delete =>
      rw [compile_delete]
      split
      · exact .inl ⟨_, rfl⟩
      · rename_i htests
        exact .inr ⟨htests, _, rfl⟩

end Mutation

/-- As long as no test was added, updates and deletions are refused, and a statement that is sent has a
whole test in its condition. -/
theorem Compared.guarded {n : Nat} {q : Query} (hq : Compared listing n q) (m : Mutation)
    (s : Session) : (n = 0 → m.Refused s q) ∧ (m.Refused s q ∨ m.Tested s q) := by
  obtain ⟨hcounted, rfl⟩ := hq.counted
  cases hexecuted : q.executed with
  | true =>
      have hrefused := m.refused_of_executed s hexecuted
      exact ⟨fun _ => hrefused, .inl hrefused⟩
  | false =>
      have hrun := m.perform_action s hexecuted
      rcases m.compile_cases q with ⟨cause, hcompile⟩ | ⟨htests, params, hcompile⟩
      · have hrefused : m.Refused s q := ⟨cause, by rw [hrun, hcompile]⟩
        exact ⟨fun _ => hrefused, .inl hrefused⟩
      · rw [hcounted] at htests
        obtain ⟨t, ht⟩ := List.exists_mem_of_length_pos (Nat.pos_of_ne_zero htests)
        obtain ⟨before, after, hcondition⟩ := Condition.mem_tests ht
        refine ⟨fun h => absurd h htests, .inr ⟨_, before, t, after, hcompile, hcondition, ?_, ?_⟩⟩
        · rw [conditionText, hcondition, Condition.text_append, Condition.text_cons]
          simp [Piece.text, String.append_assoc]
        · rw [hrun, hcompile]

/-- A query on items, of which nothing was said yet. -/
def allItems : Query := start .sqlServer TableMap.itemMap

theorem compared_allItems (admits : Except Failure Unit → Prop) : Compared admits 0 allItems :=
  .start (show (Session.query TableMap.itemClass).perform
    { connection := { dialect := .sqlServer } } = _ from rfl)

/-- The item with one number. -/
def fifthItem : Query :=
  { allItems with condition := [.test (.compare ⟨none, "id"⟩ .equal (.int 5))], tests := 1 }

/-- Of two tests the one of another class is refused, and the other one guards the deletion. -/
theorem guarded_after_refusal : Compared listing 1 fifthItem ∧
    (Mutation.delete.Refused default fifthItem ∨ Mutation.delete.Tested default fifthItem) ∧
    ∃ st, Mutation.delete.compile fifthItem = .ok st ∧
      st.sql = "DELETE FROM [item] WHERE [id] = ?" := by
  have hrefused : Compared listing 0 allItems := (compared_allItems listing).call (s := default)
    (show (FluentCall.filter
      [.test (.compare "name" .equal (.int 5) (some default))]).action.perform _ = _ from rfl) nofun
  have hadded : Compared listing 1 fifthItem := hrefused.call (s := default)
    (show (FluentCall.filter [.test (.compare "id" .equal (.int 5) none)]).action.perform _ = _
      from rfl) nofun
  exact ⟨hadded, (hadded.guarded .delete default).2, _, rfl, by decide +kernel⟩

/-- No item was asked for, but a test was counted. -/
def countedItems : Query := { allItems with tests := 1 }

/-- A test whose values cannot be listed is counted although it is not added, so that nothing guards
the deletion any more. -/
theorem unguarded_after_unlistable : Compared (fun _ => True) 0 countedItems ∧
    ¬ Mutation.delete.Refused default countedItems ∧
    ∃ st, Mutation.delete.compile countedItems = .ok st ∧ st.sql = "DELETE FROM [item] WHERE " := by
  have hfailed : Compared (fun _ => True) 0 countedItems :=
    (compared_allItems _).call (s := default)
      (show (FluentCall.filter [.test (.among "id" (.int 5) none)]).action.perform _ = _
        from rfl) trivial
  refine ⟨hfailed, ?_, _, rfl, by decide +kernel⟩
  rintro ⟨cause, hrefused⟩
  have hcompile : Mutation.delete.compile countedItems = .ok _ := rfl
  rw [Mutation.perform_action _ _ rfl, hcompile] at hrefused
  have hleft := congrArg (·.2.2.executed) hrefused
  cases hleft

end Query

end RelationalMapper
