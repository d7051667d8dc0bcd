import RelationalMapper.Proofs.Channel.Use

/-! # What the statements of an operation keep to

Each use of a statement takes its channel along one relation, and each statement that was used and
closed takes its connection along another. Whatever else goes on beside the statements, the operation
takes the connection along. -/

namespace RelationalMapper

open RelationalMapper.Action

/-- The uses of an operation's statements keep to the first relation, and the connections over which
they were sent to the second. The predicate tells whether the statements may only read. -/
structure Statement.Conduct (operation : String) (admits : Bool → Prop)
    (S : Channel → Channel → Option Failure → Prop)
    (T : Connection → Connection → Option Failure → Prop) : Prop where
  aside {c c' : Connection} {o : Option Failure} : c.Heard [] c' → T c c' o
  used {ch ch' : Channel} {calls : List Call} {reads : Bool} {o : Option Failure} :
    ch.statement.operation = operation → admits reads → ch.Heard calls ch' →
      ch.Effect reads calls o ch'.statement.cursor.isSome → S ch ch' o
  /-- A failure to close counts more than what ended the block. -/
  closed {c : Connection} {sql : String} {ch : Channel} {o : Option Failure} :
    S ⟨c, { sql, operation }⟩ ch o →
      T c (ch.connection.hearAll ch.closing) (ch.closeRefusal?.elim o fun f => some (.fault f))

/-- The relation on channels with a statement of the operation. -/
def Channel.Under (operation : String) (S : Channel → Channel → Option Failure → Prop)
    (ch ch' : Channel) (o : Option Failure) : Prop :=
  ch.statement.operation = operation → ch'.statement.operation = operation ∧ S ch ch' o

namespace Statement.Conduct

variable {operation : String} {admits : Bool → Prop}
  {S : Channel → Channel → Option Failure → Prop}
  {T : Connection → Connection → Option Failure → Prop} {α ε : Type}

instance [Passage S] : Passage (Channel.Under operation S) where
  rest _ _ := fun h => ⟨h, Passage.rest _ _⟩
  trans h h' := fun hop =>
    ⟨(h' (h hop).1).1, Passage.trans (h hop).2 (h' (h hop).1).2⟩

variable (h : Conduct operation admits S T)

include h

/-! ## Uses -/

section Uses

theorem passes_of_effect {a : Action Channel α}
    (ha : ∀ ch : Channel, ch.statement.operation = operation →
      ∃ reads, admits reads ∧ ch.HasEffect reads a) :
    Passes (Channel.Under operation S) id a := by
  intro ch hop
  obtain ⟨reads, hreads, calls, hheard, heffect⟩ := ha ch hop
  exact ⟨hheard.operation_eq.trans hop, h.used hop hreads hheard heffect⟩

theorem passes_bindAll {reads : Bool} (hadmits : admits reads) (values : List Value) :
    Passes (Channel.Under operation S) id (Channel.change (·.bindAll values)) :=
  h.passes_of_effect fun _ _ => ⟨reads, hadmits, (Use.bindAll values).hasEffect trivial⟩

theorem passes_queue {reads : Bool} (hadmits : admits reads) (values : List Value) :
    Passes (Channel.Under operation S) id
      (Channel.changeIfPossible (·.bindAll values |>.addBatch)) := by
  apply h.passes_of_effect
  intro ch _
  refine ⟨reads, hadmits, Use.hasEffect_changeIfPossible fun s s' hs => ?_⟩
  obtain ⟨params, -, rfl⟩ := map_eq_ok.mp hs
  exact ⟨rfl, rfl, rfl⟩

theorem passes_executeQuery (hadmits : admits (decide (operation = reading))) :
    Passes (Channel.Under operation S) id Channel.executeQuery := by
  apply h.passes_of_effect
  intro ch hop
  refine ⟨_, hadmits, ?_⟩
  rw [← hop]
  exact Channel.hasEffect_executeQuery

variable (hadmits : admits false)

include hadmits

theorem passes_executeUpdate : Passes (Channel.Under operation S) id Channel.executeUpdate :=
  h.passes_of_effect fun _ _ => ⟨false, hadmits, Channel.hasEffect_executeUpdate⟩

theorem passes_executeBatch : Passes (Channel.Under operation S) id Channel.executeBatch :=
  h.passes_of_effect fun _ _ => ⟨false, hadmits, Channel.hasEffect_executeBatch⟩

theorem passes_generatedKeys : Passes (Channel.Under operation S) id Channel.generatedKeys :=
  h.passes_of_effect fun _ _ => ⟨false, hadmits, Channel.hasEffect_generatedKeys⟩

end Uses

/-- Every use of a statement fits an operation that may read as well as write. -/
theorem passes_use (hadmits : ∀ reads, admits reads) (use : Use) :
    Passes (Channel.Under operation S) id use.action := by
  apply h.passes_of_effect
  intro ch _
  obtain ⟨reads, hfits⟩ := use.exists_fits ch.statement.operation
  exact ⟨reads, hadmits reads, use.hasEffect hfits⟩

/-! ## Blocks -/

theorem passes_report (n : Notice) : Passes T id (Connection.report n) :=
  fun _ => h.aside ⟨rfl, rfl, rfl⟩

theorem passes_withStatement (sql : String) {block : Action (Channel × ε) α}
    (hblock : Passes (Channel.Under operation S) (·.1) block) :
    Passes T (·.1) (Connection.withStatement sql operation block) := by
  rintro ⟨c, e⟩
  have hused := hblock (⟨c, { sql, operation }⟩, e) rfl
  rcases hrun : block.perform (⟨c, { sql, operation }⟩, e) with ⟨r, ch, e'⟩
  rw [hrun] at hused
  have hclosed := h.closed hused.2
  have hclose := Channel.perform_close_eq ch
  cases hrefusal : ch.closeRefusal? with
  | none =>
      rw [hrefusal, Option.elim_none] at hclosed hclose
      simp only [Connection.withStatement, perform_ofFunction, perform_tryFinally, hrun,
        perform_first, hclose]
      exact hclosed
  | some f =>
      rw [hrefusal, Option.elim_some] at hclosed hclose
      simp only [Connection.withStatement, perform_ofFunction, perform_tryFinally, hrun,
        perform_first, hclose]
      exact hclosed

theorem passes_onStatement (sql : String) {block : Action Channel α}
    (hblock : Passes (Channel.Under operation S) id block) :
    Passes T id (Connection.onStatement sql operation block) := by
  intro c
  have hfirst : Passes (Channel.Under operation S) (·.1)
      (block.first : Action (Channel × Unit) α) := passes_first hblock
  exact h.passes_withStatement sql hfirst (c, ())

variable [Passage S]

theorem passes_execute (hadmits : admits false) (sql : String) (params : List Value) :
    Passes T id (Connection.execute sql params operation) :=
  h.passes_onStatement sql ((h.passes_bindAll hadmits params).bind fun _ =>
    h.passes_executeUpdate hadmits)

/-- A statement of an operation that reads only reads. -/
theorem passes_query (hop : operation = reading) (hadmits : admits true) (sql : String)
    (params : List Value) : Passes T id (Connection.query sql params) := by
  subst hop
  exact h.passes_onStatement sql ((h.passes_bindAll hadmits params).bind fun _ =>
    h.passes_executeQuery (by simpa using hadmits))

end Statement.Conduct

/-! ## Connections that advance -/

namespace Channel

variable {ch ch' : Channel} {calls : List Call} {reads : Bool} {o : Option Failure} {isOpen : Bool}

/-- While a transaction is open, no use settles anything. -/
theorem Effect.settles_eq_false (h : ch.Effect reads calls o isOpen)
    (htransaction : ch.connection.inTransaction = true) :
    ∀ call ∈ calls, call.settles = false := by
  have hopening : ∀ call ∈ ch.opening, call.settles = false := by
    intro call hcall
    rcases Call.eq_of_handlesCursor (ch.handlesCursor_opening call hcall) with rfl | rfl <;> rfl
  have hstatement {call : Call} {text : String} (htext : call.text? = some text) :
      call.settles = false := by
    cases call <;> simp_all [Call.text?, Call.settles]
  have hcommit : ch.connection.commitCalls = [] := if_pos htransaction
  have hrollback : ch.connection.rollbackCalls = [] := if_pos htransaction
  have hfetching (fetched : Bool) : ∀ call ∈ fetching fetched, call.settles = false := by
    unfold fetching
    split <;> simp [Call.settles]
  -- what is sent stands behind the opening of a cursor, and more calls may follow it
  have hsent {call : Call} {text : String} {more : List Call} (htext : call.text? = some text)
      (hmore : ∀ call ∈ more, call.settles = false) :
      ∀ other ∈ ch.opening ++ call :: more, other.settles = false :=
    List.forall_mem_append.mpr ⟨hopening, List.forall_mem_cons.mpr ⟨hstatement htext, hmore⟩⟩
  cases h with
  | idle => simp
  | closed => simp [Call.settles]
  | unopened => exact hopening
  | unanswered => simp [Call.question, Call.settles]
  | asked => simp [Call.question, Call.settles]
  | refused htext => exact hsent htext (by simp [hrollback])
  | unfetched hcall => exact hsent hcall.text?_eq (by simp [hrollback, Call.settles])
  | uncounted hcall => exact hsent hcall.text?_eq (by simp)
  | done fetched hcall =>
      apply hsent hcall.text?_eq
      simpa [finishing, hcommit] using hfetching fetched

end Channel

theorem Connection.Heard.advances {c c' : Connection} {calls : List Call} (h : c.Heard calls c')
    (hcalls : c.inTransaction = true → ∀ call ∈ calls, call.settles = false) : c.Advances c' :=
  ⟨h.inTransaction_eq, calls, h.driver_eq, hcalls⟩

/-- Whatever statements are for, their connection advances. -/
theorem Connection.conduct_advances (operation : String) (admits : Bool → Prop) :
    Statement.Conduct operation admits (Along (Regardless Advances) Channel.connection)
      (Regardless Advances) where
  aside h := h.advances (by simp)
  used _ _ hheard heffect := hheard.connection.advances heffect.settles_eq_false
  closed {c sql ch o} h := by
    have hheard : ch.connection.Heard ch.closing (ch.connection.hearAll ch.closing) :=
      ⟨rfl, rfl, rfl⟩
    refine trans_of Advances h (hheard.advances fun _ call hcall => ?_)
    rcases Call.eq_of_handlesCursor (ch.handlesCursor_closing call hcall) with rfl | rfl <;> rfl

end RelationalMapper
