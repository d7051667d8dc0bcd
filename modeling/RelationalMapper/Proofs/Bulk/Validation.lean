import RelationalMapper.Proofs.Bulk.Partition
import RelationalMapper.Proofs.Bulk.Sending

/-! # Batches are checked as a whole

A batch is refused exactly if something is wrong with one of its entities or with the table, wherever
the entity stands, and then nothing was sent and nothing was changed. -/

namespace RelationalMapper

/-- A misuse is one of the library's own errors. -/
theorem FaultKind.isA_usage {kind : FaultKind} (h : kind.isLibrary = false) :
    kind.isA .usage = false := by
  cases kind with
  | usage => contradiction
  | _ => rfl

/-- The failure tells of a misuse, be it the library that says so or the driver. -/
def Failure.isUsage : Failure → Bool
  | .misuse _ => true
  | .fault f => f.kind.isA .usage
  | _ => false

/-- What the driver raises is none of the library's own errors. -/
structure Driver.Foreign (d : Driver) : Prop where
  faults : ∀ p ∈ d.faults, p.2.kind.isLibrary = false
  answers : ∀ answer ∈ d.responses, ∀ f, answer.fault = some f → f.kind.isLibrary = false
  fetches : ∀ answer ∈ d.responses, ∀ f, answer.fetchFault = some f → f.kind.isLibrary = false

/-- The action fails with a misuse exactly if there is something wrong, and then it leaves all as it
was. -/
structure Validates {σ α : Type} (wrong : Prop) (s : σ) (a : Action σ α) : Prop where
  refused_iff : (∃ e, (a.perform s).1 = .error e ∧ e.isUsage = true) ↔ wrong
  unchanged : ∀ e, (a.perform s).1 = .error e → e.isUsage = true → (a.perform s).2 = s

namespace Connection

/-- A connection under no terms but that its driver raises none of the library's errors. -/
def foreignTerms (c : Connection) : Terms :=
  { dialect := c.dialect, before := c.driver.trace, raises := fun f => f.kind.isLibrary = false
    sends := fun _ => True }

theorem holds_foreignTerms {c : Connection} (h : c.driver.Foreign) : c.foreignTerms.Holds c :=
  ⟨rfl, fun answer ha => ⟨h.answers answer ha, h.fetches answer ha⟩, fun point f hf =>
    h.faults (point, f) hf, [], (List.append_nil _).symm, by simp⟩

/-- No failure of sending tells of a misuse. -/
theorem isUsage_of_allows {c : Connection} {e : Failure} (h : c.foreignTerms.Allows e) :
    e.isUsage = false := by
  cases e with
  | fault f => exact FaultKind.isA_usage h
  | misuse cause => exact h.elim
  | _ => rfl

end Connection

/-- What a guard refuses is all that fails with a misuse. -/
theorem Action.Guarded.validates {σ α : Type} {wrong : Prop} {I : σ → Prop} {P : Failure → Prop}
    {Q : α → Prop} {s : σ} {a : Action σ α} (h : Guarded wrong I P Q s a)
    (hP : ∀ e, P e → e.isUsage = false) : Validates wrong s a := by
  by_cases hwrong : wrong
  · obtain ⟨cause, hrefused⟩ := h.refused hwrong
    refine ⟨⟨fun _ => hwrong, fun _ => ⟨.misuse cause, ?_, rfl⟩⟩, fun _ _ _ => ?_⟩
    · rw [hrefused]
    · rw [hrefused]
  · have hsent : ∀ e, (a.perform s).1 = .error e → e.isUsage = false := by
      intro e he
      have hend := (h.leaves hwrong).2
      rw [he] at hend
      exact hP e hend
    refine ⟨⟨fun ⟨e, he, husage⟩ => ?_, fun h' => absurd h' hwrong⟩, fun e he husage => ?_⟩
    · simp [hsent e he] at husage
    · simp [hsent e he] at husage

namespace TableMap

variable {m : TableMap}

/-- What each operation on a batch refuses, and nothing else. -/
structure ValidatesBatches (m : TableMap) (limit : ParameterLimit) (c : Connection) {κ : Type}
    [DecidableEq κ] (store : EntityStore κ) : Prop where
  insertion : ∀ refs : List κ, refs ≠ [] →
    Validates (m.MixesTypes (refs.map store) ∨ m.insertProperties = [] ∨
      ∃ e ∈ refs.map store, m.LacksManualKey e) (c, store) (m.insertAll limit refs)
  update : ∀ entities : List Entity, entities ≠ [] →
    Validates (m.MixesTypes entities ∨ m.keys = [] ∨ m.updateProperties = [] ∨
      ∃ e ∈ entities, m.LacksKey e) c (m.updateAll limit entities)
  deletion : ∀ entities : List Entity, entities ≠ [] →
    Validates (m.MixesTypes entities ∨ m.keys = [] ∨ ∃ e ∈ entities, m.LacksKey e) c
      (m.deleteAll limit entities)

/-- Batches are checked as a whole before anything of them is sent. -/
theorem Resolved.validates_batches (hm : m.Resolved) (limit : ParameterLimit) {c : Connection}
    (hdriver : c.driver.Foreign) {κ : Type} [DecidableEq κ] (store : EntityStore κ) :
    m.ValidatesBatches limit c store := by
  have hc := Connection.holds_foreignTerms hdriver
  refine ⟨fun refs hrefs => ?_, fun entities hentities => ?_, fun entities hentities => ?_⟩
  · exact (guarded_insertAll hm.coherent hrefs hc limit fun _ _ _ => trivial).validates
      fun _ => Connection.isUsage_of_allows
  · exact (guarded_updateAll hm.coherent hentities hc limit fun _ _ _ _ => trivial).validates
      fun _ => Connection.isUsage_of_allows
  · exact (guarded_deleteAll hm.coherent hentities hc limit fun _ _ _ _ => trivial).validates
      fun _ => Connection.isUsage_of_allows

/-- Items by number with their numbers as keys, of which the last has none. -/
def unevenStore : EntityStore Nat := fun n =>
  { type := itemClass
    attributes := [("id", if n = 3 then .null else .int n), ("name", .text (toString n))] }

/-- Under a limit of one row a statement, an item without a key is found before the items in front
of it are sent. -/
theorem validates_batches_uneven :
    let c : Connection := { dialect := .sqlite }
    itemMap.ValidatesBatches pairLimit c unevenStore ∧
      (∃ e, ((itemMap.updateAll pairLimit ([1, 2, 3].map unevenStore)).perform c).1 = .error e ∧
        e.isUsage = true) ∧
      ((itemMap.updateAll pairLimit ([1, 2, 3].map unevenStore)).perform c).2 = c := by
  intro c
  have hchecked : itemMap.ValidatesBatches pairLimit c unevenStore :=
    Resolved.validates_batches resolved_itemMap pairLimit ⟨by simp [c], by simp [c], by simp [c]⟩
      unevenStore
  have hupdate := hchecked.update ([1, 2, 3].map unevenStore) (by simp)
  have hlacks : itemMap.LacksKey (unevenStore 3) := ⟨⟨"id", "id", true⟩, by decide, rfl⟩
  obtain ⟨e, hfailed, husage⟩ := hupdate.refused_iff.mpr (.inr (.inr (.inr ⟨_, by simp, hlacks⟩)))
  exact ⟨hchecked, ⟨e, hfailed, husage⟩, hupdate.unchanged e hfailed husage⟩

end TableMap

end RelationalMapper
