import Mathlib.Order.Defs.Unbundled
import RelationalMapper.Action

/-! # What actions leave unchanged, and where they lead

An action keeps a view of its state if the view is the same afterwards, however the action ended. It
leads along a relation if the view is related to what it was. -/

namespace RelationalMapper

/-! ## Results -/

section Results

variable {α β : Type}

theorem bind_eq_ok {ε : Type} {x : Except ε α} {f : α → Except ε β} {b : β} :
    x >>= f = .ok b ↔ ∃ a, x = .ok a ∧ f a = .ok b := by
  cases x with
  | error e => simp [bind, Except.bind]
  | ok a => simp [bind, Except.bind]

theorem map_eq_ok {x : Except Failure α} {f : α → β} {b : β} :
    x.map f = .ok b ↔ ∃ a, x = .ok a ∧ f a = b := by
  cases x with
  | error e => simp [Except.map]
  | ok a => simp [Except.map]

theorem bind_eq_error {x : Except Failure α} {f : α → Except Failure β} {e : Failure} :
    x >>= f = .error e ↔ x = .error e ∨ ∃ a, x = .ok a ∧ f a = .error e := by
  cases x with
  | error e' => simp [bind, Except.bind]
  | ok a => simp [bind, Except.bind]

theorem map_eq_error {x : Except Failure α} {f : α → β} {e : Failure} :
    x.map f = .error e ↔ x = .error e := by
  cases x with
  | error e' => simp [Except.map]
  | ok a => simp [Except.map]

theorem forall_of_mapM_ok {f : α → Except Failure β} {P : β → Prop} {xs : List α}
    {ys : List β} (hP : ∀ x ∈ xs, ∀ y, f x = .ok y → P y) (h : xs.mapM f = .ok ys) :
    ∀ y ∈ ys, P y := by
  induction xs generalizing ys with
  | nil =>
      rw [List.mapM_nil] at h
      rw [← Except.ok.inj h]
      simp
  | cons x xs ih =>
      rw [List.mapM_cons] at h
      obtain ⟨y, hy, h⟩ := bind_eq_ok.mp h
      obtain ⟨rest, hrest, h⟩ := bind_eq_ok.mp h
      rw [← Except.ok.inj h]
      intro z hz
      rcases List.mem_cons.mp hz with rfl | hz
      · exact hP x List.mem_cons_self _ hy
      · exact ih (fun x' hx' => hP x' (List.mem_cons_of_mem x hx')) hrest z hz

theorem foldlM_invariant {P : β → Prop} {f : β → α → Except Failure β} {xs : List α} {s s' : β}
    (hstep : ∀ s x s', P s → f s x = .ok s' → P s') (hs : P s) (h : xs.foldlM f s = .ok s') :
    P s' := by
  induction xs generalizing s with
  | nil =>
      rw [List.foldlM_nil] at h
      rwa [← Except.ok.inj h]
  | cons x xs ih =>
      rw [List.foldlM_cons] at h
      obtain ⟨next, hnext, h⟩ := bind_eq_ok.mp h
      exact ih (hstep s x next hs hnext) h

/-- A list is worked through if each of its elements is. -/
theorem mapM_eq_pure {M : Type → Type} [Monad M] [LawfulMonad M] {f : α → M β} {g : α → β}
    {xs : List α} (h : ∀ x ∈ xs, f x = pure (g x)) : xs.mapM f = pure (xs.map g) := by
  induction xs with
  | nil => rfl
  | cons x xs ih =>
      rw [List.mapM_cons, h x List.mem_cons_self,
        ih fun x' hx' => h x' (List.mem_cons_of_mem x hx')]
      simp

end Results

namespace Action

variable {σ τ α β γ : Type}

def Keeps (view : σ → γ) (a : Action σ α) : Prop := ∀ s, view (a.perform s).2 = view s

section Keeps

variable {view : σ → γ}

theorem keeps_pure (x : α) : Keeps view (pure x : Action σ α) := fun _ => rfl

theorem keeps_throw (e : Failure) : Keeps view (throw e : Action σ α) := fun _ => rfl

theorem keeps_get : Keeps view (get : Action σ σ) := fun _ => rfl

theorem keeps_ofExcept (r : Except Failure α) : Keeps view (ofExcept r : Action σ α) := by
  intro s
  rw [perform_ofExcept]

theorem keeps_modify {f : σ → σ} (h : ∀ s, view (f s) = view s) :
    Keeps view (modify f : Action σ Unit) := h

theorem Keeps.bind {a : Action σ α} {f : α → Action σ β} (ha : Keeps view a)
    (hf : ∀ x, Keeps view (f x)) : Keeps view (a >>= f) := by
  intro s
  have hs := ha s
  rw [perform_bind]
  rcases h : a.perform s with ⟨_ | x, s'⟩
  · simpa [h] using hs
  · simpa [h] using (hf x s').trans (by simpa [h] using hs)

theorem keeps_mapM {f : α → Action σ β} (hf : ∀ x, Keeps view (f x)) (items : List α) :
    Keeps view (items.mapM f) := by
  induction items with
  | nil => exact keeps_pure _
  | cons x items ih =>
      rw [List.mapM_cons]
      exact (hf x).bind fun y => ih.bind fun ys => keeps_pure (y :: ys)

theorem keeps_forM {f : α → Action σ PUnit} (hf : ∀ x, Keeps view (f x)) (items : List α) :
    Keeps view (items.forM f) := by
  induction items with
  | nil => exact keeps_pure _
  | cons x items ih => exact (hf x).bind fun _ => ih

end Keeps

/-! ## Where actions lead -/

/-- However the action ends, what is viewed is related to what it was. -/
def Leads (R : γ → γ → Prop) (view : σ → γ) (a : Action σ α) : Prop :=
  ∀ s, R (view s) (view (a.perform s).2)

section Leads

variable {R : γ → γ → Prop} {view : σ → γ} {a : Action σ α}

theorem leads_modify {f : σ → σ} (h : ∀ s, R (view s) (view (f s))) :
    Leads R view (modify f : Action σ Unit) := h

/-- An action on a part of the state, where the part is what is viewed. -/
theorem Leads.within {part : τ → σ} {update : τ → σ → τ} {whole : τ → γ} (ha : Leads R view a)
    (hpart : ∀ t, whole t = view (part t)) (hupdate : ∀ t s, whole (update t s) = view s) :
    Leads R whole (a.within part update) := by
  intro t
  rw [perform_within, hpart t]
  simpa [hupdate] using ha (part t)

theorem leads_after_tryFinally (a : Action σ α) {last : Action σ β} (hl : Leads R view last)
    (s : σ) : R (view (a.perform s).2) (view ((tryFinally a last).perform s).2) := by
  rw [perform_tryFinally]
  rcases a.perform s with ⟨r, s'⟩
  have h := hl s'
  rcases hlast : last.perform s' with ⟨_ | x, s''⟩ <;> simpa [hlast] using h

theorem Leads.mono {R' : γ → γ → Prop} (ha : Leads R view a)
    (hR : ∀ c c', R c c' → R' c c') : Leads R' view a := fun s => hR _ _ (ha s)

variable [IsPreorder γ R]

theorem Keeps.leads (h : Keeps view a) : Leads R view a := by
  intro s
  rw [h s]
  exact refl_of R (view s)

theorem leads_pure (x : α) : Leads R view (pure x : Action σ α) := (keeps_pure x).leads

theorem leads_throw (e : Failure) : Leads R view (throw e : Action σ α) := (keeps_throw e).leads

theorem leads_get : Leads R view (get : Action σ σ) := keeps_get.leads

theorem leads_ofExcept (r : Except Failure α) : Leads R view (ofExcept r : Action σ α) :=
  (keeps_ofExcept r).leads

/-- The sequel leads on from what the first action left. -/
theorem leads_after_bind (a : Action σ α) {f : α → Action σ β} (hf : ∀ x, Leads R view (f x))
    (s : σ) : R (view (a.perform s).2) (view ((a >>= f).perform s).2) := by
  rw [perform_bind]
  rcases a.perform s with ⟨_ | x, s'⟩
  · exact refl_of R _
  · exact hf x s'

theorem leads_after_tryCatch (a : Action σ α) {handler : Failure → Action σ α}
    (hh : ∀ e, Leads R view (handler e)) (s : σ) :
    R (view (a.perform s).2) (view ((tryCatch a handler).perform s).2) := by
  rw [perform_tryCatch]
  rcases a.perform s with ⟨e | x, s'⟩
  · exact hh e s'
  · exact refl_of R _

theorem Leads.bind {f : α → Action σ β} (ha : Leads R view a) (hf : ∀ x, Leads R view (f x)) :
    Leads R view (a >>= f) := fun s => trans_of R (ha s) (leads_after_bind a hf s)

theorem Leads.tryCatch {handler : Failure → Action σ α} (ha : Leads R view a)
    (hh : ∀ e, Leads R view (handler e)) : Leads R view (tryCatch a handler) :=
  fun s => trans_of R (ha s) (leads_after_tryCatch a hh s)

theorem Leads.tryFinally {last : Action σ β} (ha : Leads R view a) (hl : Leads R view last) :
    Leads R view (tryFinally a last) := fun s => trans_of R (ha s) (leads_after_tryFinally a hl s)

theorem leads_foldlM {f : β → α → Action σ β} (hf : ∀ b x, Leads R view (f b x)) (b : β)
    (items : List α) : Leads R view (items.foldlM f b) := by
  induction items generalizing b with
  | nil => exact leads_pure b
  | cons x items ih =>
      rw [List.foldlM_cons]
      exact (hf b x).bind ih

end Leads

/-! ## Actions without results -/

/-- The action without its result. -/
def forget (a : Action σ α) : Action σ Unit := a >>= fun _ => pure ()

theorem perform_forget (a : Action σ α) (s : σ) :
    a.forget.perform s = ((a.perform s).1.map fun _ => (), (a.perform s).2) := by
  rw [forget, perform_bind]
  rcases a.perform s with ⟨_ | x, s'⟩ <;> rfl

/-! ## Results that are changed or returned early -/

@[simp] theorem perform_map (f : α → β) (a : Action σ α) (s : σ) :
    (f <$> a).perform s = ((a.perform s).1.map f, (a.perform s).2) := by
  rw [← bind_pure_comp, perform_bind]
  rcases a.perform s with ⟨_ | x, s'⟩ <;> rfl

@[simp] theorem perform_earlyReturn {ρ : Type} (r : ρ) (s : σ) :
    perform (EarlyReturnT.return r : EarlyReturnT ρ (Action σ) α) s = (.ok (.error r), s) := rfl

/-! ## Runs that succeed -/

theorem perform_bind_ok {a : Action σ α} {f : α → Action σ β} {s s' : σ} {x : α}
    (h : a.perform s = (.ok x, s')) : (a >>= f).perform s = (f x).perform s' := by
  rw [perform_bind, h]

theorem perform_bind_error {a : Action σ α} {f : α → Action σ β} {s s' : σ} {e : Failure}
    (h : a.perform s = (.error e, s')) : (a >>= f).perform s = (.error e, s') := by
  rw [perform_bind, h]

/-- A sequence succeeds only through its first action. -/
theorem of_perform_bind_ok {a : Action σ α} {f : α → Action σ β} {s s'' : σ} {y : β}
    (h : (a >>= f).perform s = (.ok y, s'')) :
    ∃ x s', a.perform s = (.ok x, s') ∧ (f x).perform s' = (.ok y, s'') := by
  rw [perform_bind] at h
  rcases ha : a.perform s with ⟨_ | x, s'⟩
  · simp [ha] at h
  · exact ⟨x, s', rfl, by simpa [ha] using h⟩

theorem of_perform_first {a : Action σ α} {s s' : σ} {t t' : τ} {r : Except Failure α}
    (h : (first a : Action (σ × τ) α).perform (s, t) = (r, (s', t'))) :
    a.perform s = (r, s') ∧ t = t' := by
  rw [perform_first] at h
  obtain ⟨hr, hs⟩ := Prod.mk.inj h
  obtain ⟨hs, ht⟩ := Prod.mk.inj hs
  exact ⟨Prod.ext hr hs, ht⟩

end Action

end RelationalMapper
