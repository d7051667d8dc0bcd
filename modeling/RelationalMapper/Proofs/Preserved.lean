import RelationalMapper.Proofs.Action

/-! # Results and states that stay as expected

Most computations can fail for a few reasons only, and a sequence of them fails for no other reason
than its parts. Actions also keep to what is expected of their state, however they end. -/

namespace RelationalMapper

variable {α β : Type} {P : Failure → Prop}

/-! ## Results -/

/-- A failure of this result is as expected. -/
def FailsOnly (P : Failure → Prop) (r : Except Failure α) : Prop := ∀ e, r = .error e → P e

theorem failsOnly_ok (a : α) : FailsOnly P (.ok a : Except Failure α) := by simp [FailsOnly]

theorem failsOnly_error {e : Failure} (h : P e) : FailsOnly P (.error e : Except Failure α) := by
  intro e' he
  rwa [← Except.error.inj he]

theorem FailsOnly.bind {x : Except Failure α} {f : α → Except Failure β} (hx : FailsOnly P x)
    (hf : ∀ a, FailsOnly P (f a)) : FailsOnly P (x >>= f) := by
  cases x with
  | error e => exact failsOnly_error (hx e rfl)
  | ok a => exact hf a

theorem failsOnly_mapM {f : α → Except Failure β} {xs : List α} (h : ∀ x ∈ xs, FailsOnly P (f x)) :
    FailsOnly P (xs.mapM f) := by
  induction xs with
  | nil => exact failsOnly_ok []
  | cons x xs ih =>
      rw [List.mapM_cons]
      have hrest := ih fun y hy => h y (List.mem_cons_of_mem x hy)
      exact (h x List.mem_cons_self).bind fun y => hrest.bind fun ys => failsOnly_ok (y :: ys)

theorem failsOnly_foldlM {f : β → α → Except Failure β} (h : ∀ b x, FailsOnly P (f b x)) (b : β)
    (xs : List α) : FailsOnly P (xs.foldlM f b) := by
  induction xs generalizing b with
  | nil => exact failsOnly_ok b
  | cons x xs ih =>
      rw [List.foldlM_cons]
      exact (h b x).bind ih

/-! ## Checks -/

/-- A check that fails exactly if there is something wrong, and then with a misuse. -/
structure Refuses (wrong : Prop) (r : Except Failure α) : Prop where
  misuse : wrong → ∃ cause, r = .error (.misuse cause)
  passes : ¬wrong → ∃ x, r = .ok x

section Refuses

variable {wrong wrong' : Prop}

theorem Refuses.not_of_ok {r : Except Failure α} {x : α} (h : Refuses wrong r) (hr : r = .ok x) :
    ¬wrong := by
  intro hwrong
  obtain ⟨cause, hcause⟩ := h.misuse hwrong
  rw [hcause] at hr
  contradiction

theorem refuses_ok (x : α) : Refuses False (.ok x : Except Failure α) := ⟨False.elim, fun _ => ⟨x, rfl⟩⟩

theorem refuses_ite [Decidable wrong] (cause : Misuse) {r : Except Failure α} (h : Refuses wrong' r) :
    Refuses (wrong ∨ wrong') (if wrong then .error (.misuse cause) else r) := by
  split
  · rename_i hwrong
    exact ⟨fun _ => ⟨cause, rfl⟩, fun hnot => absurd (.inl hwrong) hnot⟩
  · rename_i hright
    exact ⟨fun h' => h.misuse (h'.resolve_left hright), fun hnot => h.passes fun h' => hnot (.inr h')⟩

theorem Refuses.congr {r : Except Failure α} (h : Refuses wrong r) (hiff : wrong ↔ wrong') :
    Refuses wrong' r := by
  rwa [← hiff]

theorem Refuses.map {r : Except Failure α} (h : Refuses wrong r) (f : α → β) :
    Refuses wrong (r.map f) := by
  refine ⟨fun hwrong => ?_, fun hright => ?_⟩
  · obtain ⟨cause, rfl⟩ := h.misuse hwrong
    exact ⟨cause, rfl⟩
  · obtain ⟨x, rfl⟩ := h.passes hright
    exact ⟨f x, rfl⟩

theorem Refuses.bind {x : Except Failure α} {f : α → Except Failure β} (hx : Refuses wrong x)
    (hf : ∀ a, x = .ok a → Refuses wrong' (f a)) : Refuses (wrong ∨ wrong') (x >>= f) := by
  by_cases hwrong : wrong
  · obtain ⟨cause, rfl⟩ := hx.misuse hwrong
    exact ⟨fun _ => ⟨cause, rfl⟩, fun hnot => absurd (.inl hwrong) hnot⟩
  · obtain ⟨a, rfl⟩ := hx.passes hwrong
    have h := hf a rfl
    exact ⟨fun h' => h.misuse (h'.resolve_left hwrong), fun hnot => h.passes fun h' => hnot (.inr h')⟩

variable {fails : α → Prop}

theorem refuses_mapM {f : α → Except Failure β} {xs : List α} (h : ∀ x ∈ xs, Refuses (fails x) (f x)) :
    Refuses (∃ x ∈ xs, fails x) (xs.mapM f) := by
  induction xs with
  | nil => exact (refuses_ok []).congr (by simp)
  | cons x xs ih =>
      rw [List.mapM_cons]
      have hrest := ih fun y hy => h y (List.mem_cons_of_mem x hy)
      refine ((h x List.mem_cons_self).bind fun y _ => hrest.bind fun ys _ =>
        refuses_ok (y :: ys)).congr ?_
      simp

theorem refuses_forM {f : α → Except Failure PUnit} {xs : List α}
    (h : ∀ x ∈ xs, Refuses (fails x) (f x)) : Refuses (∃ x ∈ xs, fails x) (xs.forM f) := by
  induction xs with
  | nil => exact (refuses_ok _).congr (by simp)
  | cons x xs ih =>
      have hrest := ih fun y hy => h y (List.mem_cons_of_mem x hy)
      refine ((h x List.mem_cons_self).bind fun _ _ => hrest).congr ?_
      simp

end Refuses

/-- A value is as expected, or a failure is. -/
def Ends (P : Failure → Prop) (Q : α → Prop) : Except Failure α → Prop
  | .ok x => Q x
  | .error e => P e

namespace Action

/-! ## Actions -/

variable {σ τ : Type} {I : σ → Prop} {J : τ → Prop} {Q : α → Prop} {R : β → Prop}

/-- From `s` the action comes to a state as expected, and its result is as expected. -/
def Leaves (I : σ → Prop) (P : Failure → Prop) (Q : α → Prop) (s : σ) (a : Action σ α) : Prop :=
  I (a.perform s).2 ∧ Ends P Q (a.perform s).1

/-- From every state as expected the action comes to one. -/
def Preserves (I : σ → Prop) (P : Failure → Prop) (Q : α → Prop) (a : Action σ α) : Prop :=
  ∀ s, I s → Leaves I P Q s a

theorem leaves_of_perform {a : Action σ α} {s s' : σ} {r : Except Failure α}
    (h : a.perform s = (r, s')) (hs : I s') (hr : Ends P Q r) : Leaves I P Q s a := by
  rw [Leaves, h]
  exact ⟨hs, hr⟩

/-- More failures may be expected. -/
theorem Preserves.weaken {a : Action σ α} {P' : Failure → Prop} (h : Preserves I P Q a)
    (hP : ∀ e, P e → P' e) : Preserves I P' Q a := by
  intro s hs
  obtain ⟨hleft, hr⟩ := h s hs
  refine ⟨hleft, ?_⟩
  revert hr
  cases (a.perform s).1 with
  | ok x => exact id
  | error e => exact hP e

theorem preserves_pure {x : α} (h : Q x) : Preserves I P Q (pure x) := fun _ hs => ⟨hs, h⟩

theorem preserves_throw {e : Failure} (h : P e) : Preserves I P Q (throw e : Action σ α) :=
  fun _ hs => ⟨hs, h⟩

theorem preserves_get : Preserves I P I get := fun _ hs => ⟨hs, hs⟩

theorem preserves_set {s : σ} (h : I s) : Preserves I P (fun _ => True) (set s) :=
  fun _ _ => ⟨h, trivial⟩

theorem preserves_modify {f : σ → σ} (h : ∀ s, I s → I (f s)) :
    Preserves I P (fun _ => True) (modify f) := fun s hs => ⟨h s hs, trivial⟩

theorem preserves_ofExcept {r : Except Failure α} (hQ : ∀ x, r = .ok x → Q x) (hP : FailsOnly P r) :
    Preserves I P Q (ofExcept r) := by
  intro s hs
  refine leaves_of_perform (perform_ofExcept r s) hs ?_
  cases r with
  | ok x => exact hQ x rfl
  | error e => exact hP e rfl

theorem Leaves.bind {a : Action σ α} {f : α → Action σ β} {s : σ} (ha : Leaves I P Q s a)
    (hf : ∀ x, Q x → Preserves I P R (f x)) : Leaves I P R s (a >>= f) := by
  obtain ⟨hs, hr⟩ := ha
  rw [Leaves, perform_bind]
  rcases h : a.perform s with ⟨e | x, s'⟩
  · rw [h] at hs hr
    exact ⟨hs, hr⟩
  · rw [h] at hs hr
    exact hf x hr s' hs

/-- The sequel starts where a first action ended that succeeded. -/
theorem leaves_bind_of_ok {a : Action σ α} {f : α → Action σ β} {s s' : σ} {x : α}
    (h : a.perform s = (.ok x, s')) (hf : Leaves I P R s' (f x)) : Leaves I P R s (a >>= f) := by
  rw [Leaves, perform_bind_ok h]
  exact hf

theorem Preserves.bind {a : Action σ α} {f : α → Action σ β} (ha : Preserves I P Q a)
    (hf : ∀ x, Q x → Preserves I P R (f x)) : Preserves I P R (a >>= f) :=
  fun s hs => (ha s hs).bind hf

theorem Leaves.tryCatch {a : Action σ α} {handler : Failure → Action σ α} {s : σ}
    {P' : Failure → Prop} (ha : Leaves I P' Q s a) (hh : ∀ e, P' e → Preserves I P Q (handler e)) :
    Leaves I P Q s (tryCatch a handler) := by
  obtain ⟨hs, hr⟩ := ha
  rw [Leaves, perform_tryCatch]
  rcases h : a.perform s with ⟨e | x, s'⟩
  · rw [h] at hs hr
    exact hh e hr s' hs
  · rw [h] at hs hr
    exact ⟨hs, hr⟩

theorem Preserves.tryCatch {a : Action σ α} {handler : Failure → Action σ α} {P' : Failure → Prop}
    (ha : Preserves I P' Q a) (hh : ∀ e, P' e → Preserves I P Q (handler e)) :
    Preserves I P Q (tryCatch a handler) := fun s hs => (ha s hs).tryCatch hh

theorem Leaves.tryFinally {a : Action σ α} {last : Action σ β} {s : σ} (ha : Leaves I P Q s a)
    (hl : Preserves I P R last) : Leaves I P Q s (tryFinally a last) := by
  obtain ⟨hs, hr⟩ := ha
  rw [Leaves, perform_tryFinally]
  rcases h : a.perform s with ⟨r, s'⟩
  rw [h] at hs hr
  obtain ⟨hs', hr'⟩ := hl s' hs
  rcases hlast : last.perform s' with ⟨e | x, s''⟩
  · rw [hlast] at hs' hr'
    simpa only [hlast] using ⟨hs', hr'⟩
  · rw [hlast] at hs'
    simpa only [hlast] using ⟨hs', hr⟩

theorem Preserves.tryFinally {a : Action σ α} {last : Action σ β} (ha : Preserves I P Q a)
    (hl : Preserves I P R last) : Preserves I P Q (tryFinally a last) :=
  fun s hs => (ha s hs).tryFinally hl

/-- An action on a part of the state. -/
theorem Preserves.within {part : τ → σ} {update : τ → σ → τ} {a : Action σ α}
    (ha : Preserves I P Q a) (hpart : ∀ t, J t → I (part t))
    (hupdate : ∀ t s, J t → I s → J (update t s)) : Preserves J P Q (a.within part update) := by
  intro t ht
  obtain ⟨hs, hr⟩ := ha (part t) (hpart t ht)
  exact ⟨hupdate t _ ht hs, hr⟩

/-- An action on the first of two states leaves the second as it is. -/
theorem Leaves.first {a : Action σ α} {s : σ} {u : τ} (ha : Leaves I P Q s a) (hu : J u) :
    Leaves (fun p : σ × τ => I p.1 ∧ J p.2) P Q (s, u) a.first := ⟨⟨ha.1, hu⟩, ha.2⟩

theorem Preserves.second {a : Action τ α} (ha : Preserves J P Q a) :
    Preserves (fun p : σ × τ => I p.1 ∧ J p.2) P Q a.second :=
  ha.within (fun _ hp => hp.2) fun _ _ hp hu => ⟨hp.1, hu⟩

theorem preserves_foldlM {f : β → α → Action σ β} {xs : List α}
    (hf : ∀ b x, R b → x ∈ xs → Preserves I P R (f b x)) {b : β} (hb : R b) :
    Preserves I P R (xs.foldlM f b) := by
  induction xs generalizing b with
  | nil => exact preserves_pure hb
  | cons x xs ih =>
      rw [List.foldlM_cons]
      exact (hf b x hb List.mem_cons_self).bind fun b' hb' =>
        ih (fun b y hb hy => hf b y hb (List.mem_cons_of_mem x hy)) hb'

theorem preserves_forM {f : α → Action σ PUnit} {xs : List α}
    (hf : ∀ x ∈ xs, Preserves I P (fun _ => True) (f x)) :
    Preserves I P (fun _ => True) (xs.forM f) := by
  induction xs with
  | nil => exact preserves_pure trivial
  | cons x xs ih =>
      exact (hf x List.mem_cons_self).bind fun _ _ =>
        ih fun y hy => hf y (List.mem_cons_of_mem x hy)

/-! ## Actions behind checks -/

/-- The action is refused as a misuse, and nothing happens, exactly if there is something wrong;
otherwise it comes to a state as expected. -/
structure Guarded (wrong : Prop) (I : σ → Prop) (P : Failure → Prop) (Q : α → Prop) (s : σ)
    (a : Action σ α) : Prop where
  refused : wrong → ∃ cause, a.perform s = (.error (.misuse cause), s)
  leaves : ¬wrong → Leaves I P Q s a

section Guarded

variable {wrong wrong' : Prop} {s : σ}

theorem guarded_of_leaves {a : Action σ α} (h : Leaves I P Q s a) : Guarded False I P Q s a :=
  ⟨False.elim, fun _ => h⟩

theorem guarded_bind_of_ok {a : Action σ α} {f : α → Action σ β} {x : α}
    (h : a.perform s = (.ok x, s)) (hf : Guarded wrong I P R s (f x)) :
    Guarded wrong I P R s (a >>= f) := by
  refine ⟨fun hwrong => ?_, fun hright => leaves_bind_of_ok h (hf.leaves hright)⟩
  rw [perform_bind_ok h]
  exact hf.refused hwrong

/-- A check in front of an action. -/
theorem guarded_check {r : Except Failure α} {f : α → Action σ β} (hr : Refuses wrong r)
    (hf : ∀ x, r = .ok x → Guarded wrong' I P R s (f x)) :
    Guarded (wrong ∨ wrong') I P R s (ofExcept r >>= f) := by
  by_cases hwrong : wrong
  · obtain ⟨cause, rfl⟩ := hr.misuse hwrong
    exact ⟨fun _ => ⟨cause, rfl⟩, fun hnot => absurd (.inl hwrong) hnot⟩
  · obtain ⟨x, rfl⟩ := hr.passes hwrong
    have h := guarded_bind_of_ok (perform_ofExcept (.ok x) s) (hf x rfl)
    exact ⟨fun h' => h.refused (h'.resolve_left hwrong), fun hnot => h.leaves fun h' => hnot (.inr h')⟩

theorem Guarded.congr {a : Action σ α} (h : Guarded wrong I P Q s a) (hiff : wrong ↔ wrong') :
    Guarded wrong' I P Q s a := by
  rwa [← hiff]

end Guarded

end Action

end RelationalMapper
