import RelationalMapper.Bulk.Delete
import RelationalMapper.Proofs.Channel.Conduct

/-! # The statements of writing entities

One entity or many, whatever the driver answers: what the statements of an operation keep to, writing
with that operation does. -/

namespace RelationalMapper.TableMap

open RelationalMapper.Action
open Channel (Under)
open Statement (Conduct)

variable {m : TableMap} {admits : Bool → Prop}
  {S : Channel → Channel → Option Failure → Prop} [Passage S]
  {T : Connection → Connection → Option Failure → Prop}

/-- What one chunk passes along, all of them do. -/
theorem passes_inChunks {σ γ α : Type} {R : γ → γ → Option Failure → Prop} [Passage R] {view : σ → γ}
    {send : List α → Action σ Int} (h : ∀ chunk, Passes R view (send chunk)) (size : Nat)
    (items : List α) : Passes R view (inChunks size items send) := by
  apply passes_foldlM
  intro total chunk
  exact (h chunk).bind fun _ => passes_pure _

/-! ## Insertions -/

section Insertions

variable (h : Conduct insertOperation admits S T) (hadmits : admits false)

include h hadmits

theorem passes_sendInsertion (params : List Value) :
    Passes (Under insertOperation S) id (m.sendInsertion params) := by
  refine passes_get.bind fun ch => (h.passes_bindAll hadmits params).bind fun _ => ?_
  split
  · exact (h.passes_executeQuery hadmits).bind fun _ => passes_pure _
  · refine (h.passes_executeUpdate hadmits).bind fun count => ?_
    split
    · exact passes_pure _
    · exact (h.passes_generatedKeys hadmits).bind fun _ => passes_pure _

variable [Passage T]

theorem passes_insert : Passes T (·.1) m.insert := by
  refine passes_get.bind fun (c, e) => (passes_ofExcept _).bind fun _ =>
    (passes_ofExcept _).bind fun params => ?_
  refine h.passes_withStatement _ ?_
  refine (passes_first (passes_sendInsertion h hadmits params)).bind fun (count, keys) => ?_
  cases keys with
  | nil => exact passes_pure _
  | cons key keys =>
      exact (passes_ofExcept _).bind fun keyed => (passes_second _).bind fun _ => passes_pure _

variable {κ : Type} [DecidableEq κ]

theorem passes_insertChunk (refs : List κ) : Passes T (·.1) (m.insertChunk refs) := by
  refine passes_get.bind fun (c, store) => (passes_ofExcept _).bind fun params => ?_
  refine h.passes_withStatement _ ?_
  refine (passes_first (passes_sendInsertion h hadmits params.flatten)).bind fun (count, keys) => ?_
  exact (passes_second _).bind fun _ => passes_pure _

theorem passes_insertAll (limit : ParameterLimit) (refs : List κ) :
    Passes T (·.1) (m.insertAll limit refs) := by
  unfold insertAll
  by_cases hempty : refs.isEmpty = true
  · simp only [hempty, if_true]
    exact passes_pure _
  · simp only [hempty]
    exact passes_get.bind fun (c, store) => (passes_ofExcept _).bind fun _ =>
      passes_inChunks (passes_insertChunk h hadmits) _ _

end Insertions

/-! ## Updates -/

section Updates

variable [Passage T] (h : Conduct updateOperation admits S T) (hadmits : admits false)

include h hadmits

theorem passes_update (e : Entity) : Passes T id (m.update e) :=
  (passes_ofExcept _).bind fun _ => (passes_ofExcept _).bind fun _ => passes_get.bind fun _ =>
    h.passes_execute hadmits _ _

theorem passes_updateChunk (sets : List (List Value)) : Passes T id (m.updateChunk sets) := by
  refine passes_get.bind fun c => h.passes_onStatement _ (Passes.bind ?_ fun _ =>
    h.passes_executeBatch hadmits)
  apply passes_forM
  intro params _
  exact h.passes_queue hadmits params

theorem passes_updateAll (limit : ParameterLimit) (entities : List Entity) :
    Passes T id (m.updateAll limit entities) := by
  unfold updateAll
  by_cases hempty : entities.isEmpty = true
  · simp only [hempty, if_true]
    exact passes_pure _
  · simp only [hempty]
    exact (passes_ofExcept _).bind fun _ => (passes_ofExcept _).bind fun _ =>
      (passes_ofExcept _).bind fun _ => passes_inChunks (passes_updateChunk h hadmits) _ _

end Updates

/-! ## Deletions -/

section Deletions

variable [Passage T] (h : Conduct deleteOperation admits S T) (hadmits : admits false)

include h hadmits

theorem passes_delete (e : Entity) : Passes T id (m.delete e) :=
  (passes_ofExcept _).bind fun _ => passes_get.bind fun _ => h.passes_execute hadmits _ _

theorem passes_deleteChunk (keys : List (List Value)) : Passes T id (m.deleteChunk keys) :=
  passes_get.bind fun _ => h.passes_execute hadmits _ _

theorem passes_deleteAll (limit : ParameterLimit) (entities : List Entity) :
    Passes T id (m.deleteAll limit entities) := by
  unfold deleteAll
  by_cases hempty : entities.isEmpty = true
  · simp only [hempty, if_true]
    exact passes_pure _
  · simp only [hempty]
    exact (passes_ofExcept _).bind fun _ => (passes_ofExcept _).bind fun _ =>
      (passes_ofExcept _).bind fun _ => passes_inChunks (passes_deleteChunk h hadmits) _ _

end Deletions

end RelationalMapper.TableMap
