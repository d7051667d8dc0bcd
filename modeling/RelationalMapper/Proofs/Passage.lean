import RelationalMapper.Proofs.Action

/-! # Where actions lead, and how they end

A relation between states may also tell which failure ended the way from one to the other. Where
nothing needs to happen whatever the end is, and where only what succeeds goes on, a sequence of
actions keeps to a relation that its parts keep to. -/

namespace RelationalMapper

/-- The failure of a result, if it is one. -/
def failureOf {α : Type} : Except Failure α → Option Failure
  | .ok _ => none
  | .error e => some e

@[simp] theorem failureOf_ok {α : Type} (a : α) : failureOf (.ok a : Except Failure α) = none := rfl

@[simp] theorem failureOf_error {α : Type} (e : Failure) :
    failureOf (.error e : Except Failure α) = some e := rfl

theorem failureOf_eq_some {α : Type} {r : Except Failure α} {e : Failure}
    (h : failureOf r = some e) : r = .error e := by
  cases r with
  | ok a => contradiction
  | error e' => rw [Option.some.inj h]

/-- Ways from one state to another that end with a failure or go on. -/
class Passage {γ : Type} (R : γ → γ → Option Failure → Prop) : Prop where
  rest : ∀ c o, R c c o
  trans : ∀ {c c' c'' o}, R c c' none → R c' c'' o → R c c'' o

/-- A relation between states, whatever the end is. -/
def Regardless {γ : Type} (R : γ → γ → Prop) : γ → γ → Option Failure → Prop := fun c c' _ => R c c'

instance {γ : Type} {R : γ → γ → Prop} [IsPreorder γ R] : Passage (Regardless R) where
  rest c _ := refl_of R c
  trans h h' := trans_of R h h'

/-- A relation between what is viewed. -/
def Along {σ γ : Type} (R : γ → γ → Option Failure → Prop) (view : σ → γ) :
    σ → σ → Option Failure → Prop := fun s s' o => R (view s) (view s') o

instance {σ γ : Type} {R : γ → γ → Option Failure → Prop} {view : σ → γ} [Passage R] :
    Passage (Along R view) where
  rest s o := Passage.rest (R := R) (view s) o
  trans h h' := Passage.trans (R := R) h h'

namespace Action

variable {σ τ α β γ : Type}

/-- The action takes what is viewed along the relation. -/
def Passes (R : γ → γ → Option Failure → Prop) (view : σ → γ) (a : Action σ α) : Prop :=
  ∀ s, R (view s) (view (a.perform s).2) (failureOf (a.perform s).1)

section Passes

variable {R : γ → γ → Option Failure → Prop} {view : σ → γ} {a : Action σ α}

/-- An action on a part of the state, where the part is what is viewed. -/
theorem Passes.within {part : τ → σ} {update : τ → σ → τ} {whole : τ → γ} (ha : Passes R view a)
    (hpart : ∀ t, whole t = view (part t)) (hupdate : ∀ t s, whole (update t s) = view s) :
    Passes R whole (a.within part update) := by
  intro t
  rw [perform_within, hpart t]
  simpa [hupdate] using ha (part t)

/-- An action beside another state. -/
theorem passes_first {R : σ → σ → Option Failure → Prop} (h : Passes R id a) :
    Passes R (·.1) (a.first : Action (σ × τ) α) := h.within (fun _ => rfl) fun _ _ => rfl

variable [Passage R]

theorem Keeps.passes (h : Keeps view a) : Passes R view a := by
  intro s
  rw [h s]
  exact Passage.rest _ _

theorem passes_pure (x : α) : Passes R view (pure x : Action σ α) := (keeps_pure x).passes

theorem passes_throw (e : Failure) : Passes R view (throw e : Action σ α) := (keeps_throw e).passes

theorem passes_get : Passes R view (get : Action σ σ) := keeps_get.passes

theorem passes_second {R : σ → σ → Option Failure → Prop} [Passage R] (a : Action τ α) :
    Passes R (·.1) (a.second : Action (σ × τ) α) := fun _ => Passage.rest _ _

theorem passes_ofExcept (r : Except Failure α) : Passes R view (ofExcept r : Action σ α) :=
  (keeps_ofExcept r).passes

theorem Passes.bind {f : α → Action σ β} (ha : Passes R view a) (hf : ∀ x, Passes R view (f x)) :
    Passes R view (a >>= f) := by
  intro s
  have hs := ha s
  rw [perform_bind]
  rcases h : a.perform s with ⟨e | x, s'⟩
  · rwa [h] at hs
  · rw [h] at hs
    exact Passage.trans hs (hf x s')

theorem Passes.forget (ha : Passes R view a) : Passes R view a.forget :=
  ha.bind fun _ => passes_pure _

theorem passes_foldlM {f : β → α → Action σ β} (hf : ∀ b x, Passes R view (f b x)) (b : β)
    (items : List α) : Passes R view (items.foldlM f b) := by
  induction items generalizing b with
  | nil => exact passes_pure b
  | cons x items ih =>
      rw [List.foldlM_cons]
      exact (hf b x).bind ih

theorem passes_forM {f : α → Action σ PUnit} {items : List α}
    (hf : ∀ x ∈ items, Passes R view (f x)) : Passes R view (items.forM f) := by
  induction items with
  | nil => exact passes_pure _
  | cons x items ih =>
      exact (hf x List.mem_cons_self).bind fun _ =>
        ih fun y hy => hf y (List.mem_cons_of_mem x hy)

theorem passes_mapM {f : α → Action σ β} (hf : ∀ x, Passes R view (f x)) (items : List α) :
    Passes R view (items.mapM f) := by
  induction items with
  | nil => exact passes_pure _
  | cons x items ih =>
      rw [List.mapM_cons]
      exact (hf x).bind fun y => ih.bind fun ys => passes_pure (y :: ys)

end Passes

end Action

end RelationalMapper
