import RelationalMapper.Failure

/-!
Actions: computations that may fail and that change a state. What became of the state is known after
a failure, too. Main statements: what each way of putting actions together leaves.
-/

namespace RelationalMapper

abbrev Action (σ α : Type) := ExceptT Failure (StateM σ) α

namespace Action

variable {σ τ α β : Type}

/-- The outcome and the state that is left. -/
def perform (a : Action σ α) (s : σ) : Except Failure α × σ := (ExceptT.run a).run s

def ofFunction (f : σ → Except Failure α × σ) : Action σ α := ExceptT.mk fun s => pure (f s)

def ofExcept : Except Failure α → Action σ α
  | .ok a => pure a
  | .error e => throw e

/-- An action on a part of the state. -/
def within (part : τ → σ) (update : τ → σ → τ) (a : Action σ α) : Action τ α :=
  ofFunction fun t =>
    let (result, s) := a.perform (part t)
    (result, update t s)

/-- An action on the first of two states. -/
def first (a : Action σ α) : Action (σ × τ) α := a.within (·.1) fun (_, t) s => (s, t)

/-- An action on the second of two states. -/
def second (a : Action τ α) : Action (σ × τ) α := a.within (·.2) fun (s, _) t => (s, t)

/-- An action beside which nothing else is worked on. -/
def alone (a : Action (σ × Unit) α) : Action σ α :=
  ofFunction fun s =>
    let (result, (s', _)) := a.perform (s, ())
    (result, s')

/-! ### What an action leaves -/

@[simp] theorem perform_ofFunction (f : σ → Except Failure α × σ) (s : σ) :
    (ofFunction f).perform s = f s := rfl

@[simp] theorem perform_pure (a : α) (s : σ) :
    (pure a : Action σ α).perform s = (.ok a, s) := rfl

@[simp] theorem perform_throw (e : Failure) (s : σ) :
    (throw e : Action σ α).perform s = (.error e, s) := rfl

@[simp] theorem perform_get (s : σ) : (get : Action σ σ).perform s = (.ok s, s) := rfl

@[simp] theorem perform_set (s' s : σ) : (set s' : Action σ Unit).perform s = (.ok (), s') := rfl

@[simp] theorem perform_modify (f : σ → σ) (s : σ) :
    (modify f : Action σ Unit).perform s = (.ok (), f s) := rfl

/-- The second action runs on what the first one left, unless that failed. -/
theorem perform_bind (a : Action σ α) (f : α → Action σ β) (s : σ) :
    (a >>= f).perform s = match a.perform s with
      | (.ok x, s') => (f x).perform s'
      | (.error e, s') => (.error e, s') := by
  rcases h : a.perform s with ⟨_ | _, s'⟩
  all_goals
    simp only [perform, ExceptT.run, StateT.run] at h
    simp [perform, ExceptT.run, StateT.run, bind, ExceptT.bind, ExceptT.mk, StateT.bind,
      ExceptT.bindCont, pure, h] <;> rfl

/-- The handler runs on what the failed action left. -/
theorem perform_tryCatch (a : Action σ α) (handler : Failure → Action σ α) (s : σ) :
    (tryCatch a handler).perform s = match a.perform s with
      | (.ok x, s') => (.ok x, s')
      | (.error e, s') => (handler e).perform s' := by
  rcases h : a.perform s with ⟨_ | _, s'⟩
  all_goals
    simp only [perform, ExceptT.run, StateT.run] at h
    simp [perform, ExceptT.run, StateT.run, tryCatch, tryCatchThe, MonadExceptOf.tryCatch,
      ExceptT.tryCatch, ExceptT.mk, bind, StateT.bind, pure, h] <;> rfl

/-- The last action runs on what the first one left, however that ended; its own failure counts
more. -/
theorem perform_tryFinally (a : Action σ α) (last : Action σ β) (s : σ) :
    (tryFinally a last).perform s = match a.perform s with
      | (r, s') => match last.perform s' with
        | (.ok _, s'') => (r, s'')
        | (.error e, s'') => (.error e, s'') := by
  rcases h : a.perform s with ⟨_ | _, s'⟩
  all_goals
    rcases h' : last.perform s' with ⟨_ | _, s''⟩
    all_goals
      simp only [perform, ExceptT.run, StateT.run] at h h'
      simp [perform, ExceptT.run, StateT.run, tryFinally, tryFinally', bind, ExceptT.mk,
        StateT.bind, pure, Functor.map, ExceptT.map, h, h']
      rfl

@[simp] theorem perform_ofExcept (r : Except Failure α) (s : σ) :
    (ofExcept r : Action σ α).perform s = (r, s) := by
  cases r <;> rfl

@[simp] theorem perform_within (part : τ → σ) (update : τ → σ → τ) (a : Action σ α) (t : τ) :
    (a.within part update).perform t
      = ((a.perform (part t)).1, update t (a.perform (part t)).2) := rfl

@[simp] theorem perform_first (a : Action σ α) (s : σ) (t : τ) :
    (first a : Action (σ × τ) α).perform (s, t)
      = ((a.perform s).1, ((a.perform s).2, t)) := rfl

@[simp] theorem perform_second (a : Action τ α) (s : σ) (t : τ) :
    (second a : Action (σ × τ) α).perform (s, t)
      = ((a.perform t).1, (s, (a.perform t).2)) := rfl

end Action

end RelationalMapper
