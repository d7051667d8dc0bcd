import RelationalMapper.Proofs.Bulk.Sending
import RelationalMapper.Proofs.Session.Regained

/-! # One entity as a list

An entity that is the only one of a list is inserted as it is inserted on its own. Whatever the driver
answers and wherever it fails, both ways make the same calls, end alike and leave the same entity. -/

namespace RelationalMapper

open RelationalMapper.Action

/-! ## Actions that do the same -/

namespace Action

variable {σ τ ε ε' α β : Type} {f : σ → τ} {s : σ}

/-- From a state on, the second action does what the first one does, on states that are translated. -/
def Mirrors (f : σ → τ) (s : σ) (a : Action σ α) (b : Action τ α) : Prop :=
  b.perform (f s) = ((a.perform s).1, f (a.perform s).2)

theorem Mirrors.bind {a : Action σ α} {b : Action τ α} {g : α → Action σ β} {k : α → Action τ β}
    (h : Mirrors f s a b)
    (hrest : ∀ x s', a.perform s = (.ok x, s') → Mirrors f s' (g x) (k x)) :
    Mirrors f s (a >>= g) (b >>= k) := by
  rw [Mirrors, perform_bind, perform_bind, h]
  rcases ha : a.perform s with ⟨_ | x, s'⟩
  · rfl
  · exact hrest x s' ha

theorem Mirrors.tryFinally {a : Action σ α} {b : Action τ α} {last : Action σ β}
    {last' : Action τ β} (h : Mirrors f s a b) (hlast : ∀ s', Mirrors f s' last last') :
    Mirrors f s (tryFinally a last) (tryFinally b last') := by
  rw [Mirrors, perform_tryFinally, perform_tryFinally, h]
  rcases a.perform s with ⟨r, s'⟩
  have hended : last'.perform (f s') = _ := hlast s'
  simp only [hended]
  rcases last.perform s' with ⟨_ | x, s''⟩ <;> rfl

/-- What stands beside the state is translated, and the action does not touch it. -/
theorem mirrors_first (g : ε → ε') (a : Action σ α) (p : σ × ε) :
    Mirrors (Prod.map id g) p a.first a.first := rfl

end Action

namespace EntityStore

variable {κ : Type} [DecidableEq κ] (store : EntityStore κ) (ref : κ)

@[simp] theorem put_get : store.put ref (store ref) = store := by
  funext other
  unfold put
  split
  · rename_i h
    rw [h]
  · rfl

@[simp] theorem put_put (e e' : Entity) : (store.put ref e).put ref e' = store.put ref e' := by
  funext other
  unfold put
  split <;> rfl

end EntityStore

section Beside

variable {ε ε' α : Type} {g : ε → ε'} {e : ε}

theorem Connection.mirrors_withStatement (sql operation : String) {c : Connection}
    {block : Action (Channel × ε) α} {block' : Action (Channel × ε') α}
    (h : Mirrors (Prod.map id g) (⟨c, { sql, operation }⟩, e) block block') :
    Mirrors (Prod.map id g) (c, e) (withStatement sql operation block)
      (withStatement sql operation block') := by
  have hclosed := h.tryFinally (mirrors_first g Channel.close)
  rw [Mirrors] at hclosed
  simp only [Mirrors, withStatement, perform_ofFunction, Prod.map, id] at hclosed ⊢
  rw [hclosed]

theorem Session.mirrors_besides {s : Session} {a : Action (Connection × ε) α}
    {b : Action (Connection × ε') α} (h : Mirrors (Prod.map id g) (s.connection, e) a b) :
    Mirrors (Prod.map id g) (s, e) (besides a) (besides b) := by
  simp only [Mirrors, besides, perform_within, Prod.map, id] at h ⊢
  rw [h]

end Beside

/-! ## Rows that come back -/

namespace Action

variable {σ α : Type}

/-- Whatever an action does, it keeps to nothing. -/
theorem preserves_true (a : Action σ α) :
    Preserves (fun _ => True) (fun _ => True) (fun _ => True) a := by
  intro s _
  refine ⟨trivial, ?_⟩
  cases (a.perform s).1 <;> trivial

end Action

namespace Channel

theorem leaves_executeOnce (ch : Channel) :
    Leaves (fun _ => True) (fun _ => True) (· = ch.connection.driver.nextResponse) ch
      executeOnce := by
  refine leaves_bind_of_ok (perform_get ch) ?_
  cases ch.statement.parameters with
  | error e => exact ⟨trivial, trivial⟩
  | ok params =>
      refine leaves_bind_of_ok (perform_ofExcept _ ch) ?_
      rcases hsent : (transmit (.execute ch.driverText (some (ch.bound params)))).perform ch with
        ⟨e | answer, ch'⟩
      · exact leaves_of_perform hsent trivial trivial
      · exact leaves_of_perform hsent trivial (answer_of_transmit ch rfl hsent)

theorem preserves_fetchRows (answer : Response) :
    Preserves (fun _ => True) (fun _ => True) (·.length ≤ answer.rows.length)
      (fetchRows answer) := by
  unfold fetchRows
  split
  · exact preserves_pure (Nat.zero_le _)
  · exact (preserves_true _).bind fun _ _ => preserves_pure (by simp [rowsOf])

/-- A statement gives back no more rows than its driver's answer has. -/
theorem leaves_executeQuery (ch : Channel) :
    Leaves (fun _ => True) (fun _ => True)
      (·.length ≤ ch.connection.driver.nextResponse.rows.length) ch executeQuery := by
  refine (leaves_executeOnce ch).bind ?_
  rintro answer rfl
  refine (preserves_true _).bind fun s _ => Preserves.bind
    ((preserves_fetchRows _).tryCatch fun _ _ =>
      (preserves_true _).bind fun _ _ => preserves_throw trivial)
    fun rows hrows => (preserves_true _).bind fun _ _ => ?_
  simp only
  split
  · exact (preserves_true _).bind fun _ _ => preserves_pure hrows
  · exact preserves_pure hrows

end Channel

namespace TableMap

variable {m : TableMap}

/-- Where the insertion gives the key back, it tells no more rows than its answer has. -/
theorem leaves_counted {ch : Channel} (params : List Value)
    (hreturned : (m.returnedKey? ch.connection.dialect).isSome = true) :
    Leaves (fun _ => True) (fun _ => True)
      (·.1 ≤ (ch.connection.driver.nextResponse.rows.length : Int)) ch
      (m.sendInsertion params) := by
  refine leaves_bind_of_ok (perform_get ch)
    (leaves_bind_of_ok (Channel.perform_change (·.bindAll params) ch) ?_)
  rw [if_pos hreturned]
  exact (Channel.leaves_executeQuery _).bind fun rows hrows =>
    preserves_pure (Int.ofNat_le.mpr hrows)

variable {κ : Type} [DecidableEq κ]

/-- The insertion of an entity whose first key is written back to it. -/
def sendAlone (m : TableMap) (d : Dialect) (e : Entity) : Action (Channel × Entity) Int := do
  let (count, keys) ← (m.sendInsertion (m.insertRow e)).first
  if let key :: _ := keys then
    let keyed ← Action.ofExcept (m.withKey e key)
    Action.second (set keyed)
  return if (m.returnedKey? d).isSome then min count 1 else count

/-- The first key is the key of the only entity. -/
theorem mirrors_sendKeyed (ref : κ) (store : EntityStore κ) {ch : Channel}
    (hrows : (m.returnedKey? ch.connection.dialect).isSome = true →
      ch.connection.driver.nextResponse.rows.length ≤ 1) :
    Mirrors (Prod.map id (store.put ref)) (ch, store ref)
      (m.sendAlone ch.connection.dialect (store ref))
      (m.sendKeyed [ref] (m.insertRow (store ref))) := by
  refine (mirrors_first _ _ _).bind fun (count, keys) (ch', e) hfirst => ?_
  obtain ⟨hsent, rfl⟩ := of_perform_first hfirst
  have hcount : (if (m.returnedKey? ch.connection.dialect).isSome then min count 1 else count) =
      count := by
    split
    · rename_i hreturned
      have hleft := (leaves_counted (m.insertRow (store ref)) hreturned).2
      rw [congrArg Prod.fst hsent] at hleft
      have htold : count ≤ (ch.connection.driver.nextResponse.rows.length : Int) := hleft
      have hone := hrows hreturned
      omega
    · rfl
  cases keys with
  | nil => simp [Mirrors, assignKeys, hcount, Except.map]
  | cons key keys =>
      cases hkeyed : m.withKey (store ref) key with
      | error f => simp [Mirrors, assignKeys, perform_bind, hkeyed, Except.map]
      | ok keyed => simp [Mirrors, assignKeys, perform_bind, hkeyed, hcount, Except.map]

/-- One entity is inserted by the same statement either way. -/
theorem mirrors_insertAll (hm : m.Coherent) (limit : ParameterLimit) {ref : κ}
    {store : EntityStore κ} {c : Connection} (htype : (store ref).type = m.type)
    (hkeys : ¬m.LacksManualKey (store ref))
    (hrows : (m.returnedKey? c.dialect).isSome = true → c.driver.nextResponse.rows.length ≤ 1) :
    Mirrors (Prod.map id (store.put ref)) (c, store ref) m.insert (m.insertAll limit [ref]) := by
  have hstored : Prod.map id (store.put ref) (c, store ref) = (c, store) := by simp
  cases hcheck : m.checkInsertable with
  | error e =>
      have hchecked : m.checkInsertion [store ref] = .error e := by
        simp [checkInsertion, checkTypes_eq, htype, hcheck, bind, Except.bind]
      simp [Mirrors, hstored, insert, insertAll, perform_bind, hcheck, hchecked]
  | ok u =>
      have hproperties : 0 < m.insertProperties.length :=
        List.length_pos_iff.mpr (m.refuses_checkInsertable.not_of_ok hcheck)
      have hchecked : m.checkInsertion [store ref] = .ok () := by
        obtain ⟨v, hmanual⟩ := (refuses_checkManualKeys hm (store ref)).passes hkeys
        simp [checkInsertion, checkTypes_eq, htype, hcheck, hmanual, bind, Except.bind, pure,
          Except.pure]
      have hchunks : chunks (limit.rows m.insertProperties.length) [ref] = [[ref]] := by
        have hpos := limit.capacity_pos m.insertProperties.length
        rw [limit.rows_eq hproperties, chunks_cons hpos, List.take_of_length_le hpos,
          List.drop_of_length_le hpos, chunks]
      have hone : m.insert.perform (c, store ref) =
          (Connection.withStatement (m.insertText c.dialect 1) insertOperation
            (m.sendAlone c.dialect (store ref))).perform (c, store ref) := by
        simp only [insert, perform_bind, perform_get, perform_ofExcept, hcheck,
          insertValues_eq hm]
        rfl
      have hall : (m.insertAll limit [ref]).perform (c, store) =
          (Connection.withStatement (m.insertText c.dialect 1) insertOperation
            (m.sendKeyed [ref] (m.insertRow (store ref)))).perform (c, store) := by
        have hchunk := insertChunk_eq hm [ref] c store
        simp only [List.length_singleton, List.flatMap_singleton] at hchunk
        rw [← hchunk]
        rcases hrun : (m.insertChunk [ref]).perform (c, store) with ⟨_ | count, p⟩ <;>
          simp [insertAll, perform_bind, hchecked, inChunks, hchunks, hrun, Except.map]
      have hmirrored := Connection.mirrors_withStatement (m.insertText c.dialect 1) insertOperation
        (mirrors_sendKeyed ref store hrows)
      rw [Mirrors, hone, hstored, hall, ← hmirrored, hstored]

end TableMap

namespace Session

/-- A map that is ready for an entity: it is that of the entity's class, and no key is missing that the
database does not make. -/
structure Awaits (m : TableMap) (e : Entity) : Prop where
  resolved : m.Resolved
  type_eq : e.type = m.type
  keyed : ¬m.LacksManualKey e

variable {κ : Type} [DecidableEq κ]

/-- Inserting an entity as the only one of a list is inserting it: the same calls with the same result
or failure, and the entity with the same key. -/
theorem insertAll_singleton (s : Session) (store : EntityStore κ) (ref : κ)
    (hmap : ∀ m s₁, (tableMap (store ref).type).perform s = (.ok m, s₁) →
      Awaits m (store ref) ∧ ((m.returnedKey? s.connection.dialect).isSome = true →
        s.connection.driver.nextResponse.rows.length ≤ 1)) :
    (Session.insertAll [ref]).perform (s, store) =
      let (result, (s', e')) := Session.insert.perform (s, store ref)
      (result, (s', store.put ref e')) := by
  have hkept := keeps_tableMap (store ref).type s
  rcases hfound : (tableMap (store ref).type).perform s with ⟨f | m, s₁⟩
  · simp [insertAll, insert, mapOf, perform_bind, hfound, Except.map]
  · replace hkept : s₁.connection = s.connection := by simpa [hfound] using hkept
    obtain ⟨hawaits, hrows⟩ := hmap m s₁ hfound
    rw [← hkept] at hrows
    have hmirrored := mirrors_besides (TableMap.mirrors_insertAll hawaits.resolved.coherent s.limit
      hawaits.type_eq hawaits.keyed hrows)
    have hstored : Prod.map id (store.put ref) (s₁, store ref) = (s₁, store) := by simp
    rw [Mirrors, hstored] at hmirrored
    simp [insertAll, insert, mapOf, perform_bind, hfound, Except.map, hmirrored]
    rfl

/-- A session whose driver gives the key of one row back. -/
def returningSession : Session :=
  { connection :=
      { dialect := .postgres
        driver := { responses := [{ columns := some ["id"], rows := [[.int 7]] }] } } }

/-- An item gets its key either way. -/
theorem insertAll_singleton_item :
    (Session.insertAll [0]).perform (returningSession, TableMap.itemStore) =
        (let (result, (s', e')) := Session.insert.perform (returningSession, TableMap.itemStore 0)
        (result, (s', TableMap.itemStore.put 0 e'))) ∧
      (Session.insert.perform (returningSession, TableMap.itemStore 0)).2.2.get "id" = .int 7 := by
  have hfound : ((tableMap (TableMap.itemStore 0).type).perform returningSession).1 =
      .ok TableMap.itemMap := rfl
  refine ⟨insertAll_singleton returningSession TableMap.itemStore 0 fun m s₁ hm => ?_,
    by decide +kernel⟩
  rw [hm] at hfound
  obtain rfl := Except.ok.inj hfound
  refine ⟨⟨TableMap.resolved_itemMap, rfl, ?_⟩, fun _ => le_refl 1⟩
  rintro ⟨part, hpart, hmanual, -⟩
  obtain rfl := List.mem_singleton.mp hpart
  contradiction

end Session

end RelationalMapper
