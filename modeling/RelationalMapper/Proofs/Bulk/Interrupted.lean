import RelationalMapper.Proofs.Bulk.GeneratedKeys
import RelationalMapper.Proofs.Bulk.Single
import RelationalMapper.Proofs.Channel.Ledger
import RelationalMapper.Proofs.Channel.Transmission

/-! # A bulk insertion that is interrupted

When the driver refuses the insertion of one chunk, the chunks before it are durable and their entities
have their keys. Nothing is sent for the chunks behind it, and their entities are as they were. -/

namespace RelationalMapper

open RelationalMapper.Action

/-! ## Drivers that serve -/

namespace Driver

variable {d : Driver}

/-- Calls where no fault waits use up an answer for each statement, and nothing else. -/
theorem hearAll_eq_after (h : d.Calm) {calls : List Call}
    (hcalls : ∀ call ∈ calls, call ≠ .rollback ∧ call ≠ .close) :
    d.hearAll calls = d.after calls (calls.countP Call.isStatement) := by
  induction calls generalizing d with
  | nil => simp [after]
  | cons c calls ih =>
      obtain ⟨hc, hcalls⟩ := List.forall_mem_cons.mp hcalls
      have hheard : d.hear c = d.after [c] (if c.isStatement then 1 else 0) := by
        cases c with
        | rollback => exact absurd rfl hc.1
        | close => exact absurd rfl hc.2
        | _ => simp [hear, refusal?, Call.isStatement, Call.point?, after, record, h.openCursor,
            h.closeCursor, h.commit]
      rw [hearAll_cons, hheard, ih (h.after _ _) hcalls, after_after, List.countP_cons, Nat.add_comm]
      rfl

end Driver

/-! ## What is durable -/

namespace Ledger

variable {l : Ledger} {d : Driver}

theorem afterCalls_idle {calls : List Call}
    (h : ∀ call ∈ calls, call.isStatement = false ∧ call.settles = false) :
    l.afterCalls d calls = l := by
  induction calls generalizing d with
  | nil => rfl
  | cons c calls ih =>
      obtain ⟨⟨hstatement, hsettles⟩, hcalls⟩ := List.forall_mem_cons.mp h
      have henter : ∀ place refused, l.enter place c refused = l := by
        intro place refused
        cases refused with
        | true => rfl
        | false => cases c <;> first | rfl | contradiction
      rw [afterCalls, henter, ih hcalls]

/-- A statement is durable with all that was pending, when a commit follows it. -/
theorem afterCalls_committed {call : Call} (hcall : call.isStatement = true)
    (hfault : d.nextResponse.fault = none) (hcommit : d.waiting? .commit = none) {idle : List Call}
    (hidle : ∀ call ∈ idle, call.isStatement = false ∧ call.settles = false) (rest : List Call) :
    l.afterCalls d (.openCursor :: call :: (idle ++ .commit :: rest)) =
      (⟨[], l.durable ++ (l.pending ++ [d.trace.length + 1])⟩ : Ledger).afterCalls
        (d.hearAll (.openCursor :: call :: (idle ++ [.commit]))) rest := by
  let ready := (d.hear .openCursor).hear call
  have hopened : ∀ refused, l.enter d.trace.length .openCursor refused = l := fun refused => by
    cases refused <;> rfl
  have hrefusal : (d.hear .openCursor).refusal? call = none := by
    rw [Driver.refusal?, if_pos hcall, Driver.nextResponse, Driver.responses_hear _ rfl]
    exact hfault
  have htaken : l.enter (d.hear .openCursor).trace.length call false =
      ⟨l.pending ++ [d.trace.length + 1], l.durable⟩ := by
    rw [Driver.trace_hear, List.length_append, List.length_singleton]
    cases call <;> first | rfl | contradiction
  have hkept : (ready.hearAll idle).refusal? .commit = none :=
    Driver.waiting?_hearAll_eq_none
      (Driver.waiting?_hear_eq_none (Driver.waiting?_hear_eq_none hcommit _) _) idle
  rw [afterCalls, afterCalls, hopened, hrefusal, Option.isSome_none, htaken, afterCalls_append,
    afterCalls_idle hidle, afterCalls, hkept, Driver.hearAll_cons, Driver.hearAll_cons,
    Driver.hearAll_append]
  rfl

theorem mem_pending_enter {place other : Nat} {c : Call} {refused : Bool}
    (h : other ∈ (l.enter place c refused).pending) :
    other ∈ l.pending ∨ c.isStatement = true ∧ other = place := by
  cases refused with
  | true => exact .inl h
  | false =>
      cases c with
      | execute _ _ => exact (List.mem_append.mp h).imp id fun h => ⟨rfl, List.mem_singleton.mp h⟩
      | executeMany _ _ =>
          exact (List.mem_append.mp h).imp id fun h => ⟨rfl, List.mem_singleton.mp h⟩
      | commit => contradiction
      | rollback => contradiction
      | _ => exact .inl h

/-- Statements that are pending were pending before, or stand among the calls. -/
theorem pending_afterCalls {calls : List Call} {place : Nat}
    (h : place ∈ (l.afterCalls d calls).pending) :
    place ∈ l.pending ∨ ∃ call ∈ calls, call.isStatement = true ∧
      (d.trace ++ calls)[place]? = some call := by
  induction calls generalizing l d with
  | nil => exact .inl h
  | cons c calls ih =>
      rcases ih h with hplace | ⟨call, hcall, hstatement, hplace⟩
      · rcases mem_pending_enter hplace with hold | ⟨hstatement, rfl⟩
        · exact .inl hold
        · exact .inr ⟨c, List.mem_cons_self, hstatement, by simp⟩
      · refine .inr ⟨call, List.mem_cons_of_mem c hcall, hstatement, ?_⟩
        simpa using hplace

/-- The insertions that are durable, where the driver heard these calls. -/
def insertions (l : Ledger) (d : Dialect) (heard : List Call) : List (String × List Value) :=
  d.handed "INSERT" (l.durable.filterMap (heard[·]?))

/-- No insertion is pending. -/
def Rests (l : Ledger) (heard : List Call) : Prop :=
  ∀ place ∈ l.pending, ∀ call, heard[place]? = some call → call.Quiet

end Ledger

/-! ## Chunks that the driver takes -/

namespace TableMap

variable {m : TableMap} {c : Connection}

/-- An insertion outside a transaction: behind its statement comes a commit, and behind that nothing
but the question for the last key. -/
theorem exists_insertionCalls (houtside : c.inTransaction = false) (call : Call) :
    ∃ idle rest, m.insertionCalls c call ++ [.closeCursor] =
        .openCursor :: call :: (idle ++ .commit :: rest) ∧
      (∀ call ∈ idle, call.isStatement = false ∧ call.settles = false) ∧
      ∀ call ∈ rest, call ≠ .commit ∧ call.Quiet := by
  have hcommit : c.commitCalls = [.commit] := by simp [Connection.commitCalls, houtside]
  unfold insertionCalls
  split
  · refine ⟨Channel.fetchCalls c.driver.nextResponse, [.closeCursor], by simp [hcommit], ?_, ?_⟩
    · unfold Channel.fetchCalls
      split <;> simp [Call.isStatement, Call.settles]
    · simp [Call.Quiet, Call.isStatement]
  · refine ⟨[], (if m.asks c.dialect c.driver.nextResponse then [.execute Keys.lastKeyQuery none,
      .fetchOne] else []) ++ [.closeCursor], by simp [hcommit], by simp, ?_⟩
    split <;> simp [Call.Quiet, Call.isStatement]

variable {l : Ledger} {heard : List Call} {entities : List Entity}

/-- An insertion that the driver takes outside a transaction is durable, and no other one is pending. -/
theorem insertions_afterCalls (houtside : c.inTransaction = false) (hcalm : c.driver.Calm)
    (hfault : c.driver.nextResponse.fault = none) (hrests : l.Rests heard)
    (hheard : c.driver.trace ++ (m.insertionCalls c (m.insertCall c.dialect entities) ++
      [.closeCursor]) <+: heard) :
    let l' := l.afterCalls c.driver
      (m.insertionCalls c (m.insertCall c.dialect entities) ++ [.closeCursor])
    l'.Rests heard ∧ l'.insertions c.dialect heard = l.insertions c.dialect heard ++
      [(m.insertText c.dialect entities.length, m.boundRows c.dialect entities)] := by
  intro l'
  obtain ⟨idle, rest, hcalls, hidle, hrest⟩ :=
    m.exists_insertionCalls houtside (m.insertCall c.dialect entities)
  have hl' : l' = _ := (congrArg (l.afterCalls c.driver) hcalls).trans
    (Ledger.afterCalls_committed (l := l) rfl hfault hcalm.commit hidle rest)
  rw [hcalls] at hheard
  have hplace : ∀ (place : Nat) call,
      (c.driver.trace ++ .openCursor :: m.insertCall c.dialect entities ::
        (idle ++ .commit :: rest))[place]? = some call → heard[place]? = some call := by
    intro place call h
    obtain ⟨hlt, rfl⟩ := List.getElem?_eq_some_iff.mp h
    exact List.prefix_iff_getElem?.mp hheard place hlt
  constructor
  · intro place hpending call hcall
    rw [hl'] at hpending
    rcases Ledger.pending_afterCalls hpending with hnone | ⟨other, hother, -, hat⟩
    · contradiction
    · have hsame : heard[place]? = some other := hplace place other (by simpa using hat)
      rw [hsame] at hcall
      rw [← Option.some.inj hcall]
      exact (hrest other hother).2
  · have hpending : c.dialect.handed "INSERT" (l.pending.filterMap (heard[·]?)) = [] := by
      refine Dialect.handed_of_quiet fun call hcall => ?_
      obtain ⟨place, hmem, hat⟩ := List.mem_filterMap.mp hcall
      exact hrests place hmem call hat
    have hinsert : heard[c.driver.trace.length + 1]? = some (m.insertCall c.dialect entities) :=
      hplace _ _ (by simp)
    rw [hl', Ledger.insertions, Ledger.durable_afterCalls fun call hcall => (hrest call hcall).1]
    simp only [List.filterMap_append, Dialect.handed_append, hpending, List.nil_append,
      List.filterMap_cons, hinsert, List.filterMap_nil]
    rw [handed_insertCall]
    rfl

/-- The driver takes in the calls of an insertion, and its answers are used up. -/
theorem hearAll_insertionCalls (hcalm : c.driver.Calm) (entities : List Entity) :
    c.driver.hearAll (m.insertionCalls c (m.insertCall c.dialect entities) ++ [.closeCursor]) =
      c.driver.after (m.insertionCalls c (m.insertCall c.dialect entities) ++ [.closeCursor])
        (m.answersTaken c.dialect c.driver.responses) := by
  have hcount : (m.insertionCalls c (m.insertCall c.dialect entities) ++ [Call.closeCursor]).countP
      Call.isStatement = m.answersTaken c.dialect c.driver.responses := by
    have hcommit : c.commitCalls.countP Call.isStatement = 0 :=
      List.countP_eq_zero.mpr fun call hcall => by simp [isStatement_commitCalls c call hcall]
    have hfetch : (Channel.fetchCalls c.driver.nextResponse).countP Call.isStatement = 0 :=
      List.countP_eq_zero.mpr fun call hcall => by simp [isStatement_fetchCalls _ call hcall]
    have hasks : m.asks c.dialect (c.driver.responses.headD {}) =
      m.asks c.dialect c.driver.nextResponse := rfl
    unfold insertionCalls answersTaken
    rw [hasks]
    split
    · rename_i hreturned
      simp [List.countP_cons, not_asks_of_returned hreturned, hcommit, hfetch,
        insertCall, Call.isStatement]
    · split <;> rename_i hasked <;>
        simp [List.countP_cons, hasked, hcommit, insertCall, Call.isStatement]
  rw [← hcount]
  refine Driver.hearAll_eq_after hcalm fun call hcall => ?_
  unfold insertionCalls Channel.fetchCalls Connection.commitCalls insertCall at hcall
  grind

/-! ## A chunk that the driver refuses -/

/-- What fails when it is handed over fails as an insertion. -/
theorem perform_sendInsertion_of_error {s : Statement} {params : List Value} {e : Failure}
    {ch : Channel} (h : Channel.executeOnce.perform ⟨c, s.bindAll params⟩ = (.error e, ch)) :
    (m.sendInsertion params).perform ⟨c, s⟩ = (.error e, ch) := by
  rw [sendInsertion, perform_bind_ok (perform_get _), perform_bind_ok (Channel.perform_change _ _)]
  split
  · exact perform_bind_error (perform_bind_error h)
  · exact perform_bind_error (perform_bind_error h)

variable {κ : Type} [DecidableEq κ] {refs : List κ} {f : Fault}

/-- An insertion that is refused is undone, and nothing comes behind it. -/
theorem perform_insertChunk_of_refused (hm : m.Coherent) (refs : List κ) (store : EntityStore κ)
    (hopen : c.driver.waiting? .openCursor = none) (hclose : c.driver.waiting? .closeCursor = none)
    (hfault : c.driver.nextResponse.fault = some f) :
    ∃ c', (m.insertChunk refs).perform (c, store) =
        (.error (Statement.failedBy
          { sql := m.insertText c.dialect refs.length, operation := insertOperation } f),
          (c', store)) ∧
      c'.driver = c.driver.hearAll (.openCursor :: m.insertCall c.dialect (refs.map store) ::
        (c.rollbackCalls ++ [.closeCursor])) := by
  let params := refs.flatMap fun ref => m.insertRow (store ref)
  let fresh : Statement :=
    { sql := m.insertText c.dialect refs.length, operation := insertOperation }
  let ch : Channel := ⟨c, fresh.bindAll params⟩
  let call := m.insertCall c.dialect (refs.map store)
  let sent := ((ch.opened.hearAll [call]).hearAll c.rollbackCalls).counted
  have hrefused : ch.ready.nextResponse.fault = some f := by rwa [ch.nextResponse_ready]
  have hsent : (Channel.transmit call).perform ch = (.error (fresh.failedBy f), sent) :=
    Channel.perform_transmit_of_refused rfl hopen rfl hrefused
  have hcall : Channel.executeCall c fresh params = call := by
    simp [Channel.executeCall, insertCall, boundRows, params, fresh, call, List.map_flatMap,
      List.flatMap_map]
  have honce : Channel.executeOnce.perform ch = (.error (fresh.failedBy f), sent) := by
    rw [Channel.perform_executeOnce_eq (fresh.parameters_bindAll params),
      Channel.executeCall_bindAll, hcall]
    exact hsent
  have hblock : (m.sendKeyed refs params).perform (⟨c, fresh⟩, store) =
      (.error (fresh.failedBy f), (sent, store)) := by
    simp [sendKeyed, perform_bind, perform_sendInsertion_of_error honce]
  have hdriver : sent.connection.driver =
      c.driver.hearAll (.openCursor :: call :: c.rollbackCalls) := rfl
  have hheld : sent.statement.cursor = some Channel.freshCursor := rfl
  have hkept : sent.closeRefusal? = none := by
    rw [Channel.closeRefusal?, hheld, Option.isSome_some, if_pos rfl, hdriver]
    exact Driver.waiting?_hearAll_eq_none hclose _
  have hclosed := Channel.perform_close_eq sent
  rw [hkept, Option.elim_none] at hclosed
  refine ⟨(sent.hearAll sent.closing).shut.connection, ?_, ?_⟩
  · rw [insertChunk_eq hm, Connection.withStatement, perform_ofFunction]
    simp [perform_tryFinally, hblock, hclosed, fresh, params]
  · rw [← List.cons_append, ← List.cons_append, Driver.hearAll_append, ← hdriver]
    rfl

/-! ## The run up to that chunk -/

/-- The answers to the insertions of these chunks, of which the database gives the rows numbers from
some number on, and then a fault. -/
def Interrupts (d : Dialect) (f : Fault) : List (List κ × Int) → List Response → Prop
  | [], answers => (answers.headD {}).fault = some f
  | (chunk, first) :: numbered, answers =>
    Exposes d first chunk.length (answers.headD {}) ∧
      (d = .sqlServer → TellsLast (first + chunk.length) (answers.tail.headD {})) ∧
      Interrupts d f numbered (answers.drop (if d = .sqlServer then 2 else 1))

/-- The entities of these chunks get their numbers as a property. -/
def numberedChunks (p : String) (store : EntityStore κ) (numbered : List (List κ × Int)) :
    EntityStore κ :=
  numbered.foldl (fun store (chunk, first) => store.numbered p first chunk) store

variable {part : KeyPart}

/-- Numbers that are written back change nothing that an insertion binds. -/
theorem KeyedBy.insertRow_numbered (hkey : m.KeyedBy part) (store : EntityStore κ) (next : Int)
    (refs : List κ) (ref : κ) :
    m.insertRow (store.numbered part.property next refs ref) = m.insertRow (store ref) := by
  induction refs generalizing store next with
  | nil => rfl
  | cons other refs ih =>
      rw [EntityStore.numbered, ih]
      by_cases href : ref = other
      · rw [href, EntityStore.put_self]
        exact insertRow_of_withKey (hkey.withKey_int (store other) next)
      · rw [EntityStore.put_of_ne _ _ href]

theorem KeyedBy.asks_of_exposes (hkey : m.KeyedBy part) {d : Dialect} {next : Int} {rows : Nat}
    {answer : Response} (hrows : 0 < rows) (h : Exposes d next rows answer) :
    m.asks d answer = decide (d = .sqlServer) := by
  have hpositive : (0 : Int) < max (rows : Int) 0 := by omega
  simp [asks, hkey.singleAutoKey?, h.rowCount, Keys.asks, hrows]

/-- The insertions of chunks, as they are handed over. -/
def insertionsOf (m : TableMap) (d : Dialect) (store : EntityStore κ) (cs : List (List κ)) :
    List (String × List Value) :=
  cs.map fun chunk => (m.insertText d chunk.length, m.boundRows d (chunk.map store))

theorem KeyedBy.insertionsOf_numbered (hkey : m.KeyedBy part) (d : Dialect) (store : EntityStore κ)
    (next : Int) (refs : List κ) (cs : List (List κ)) :
    m.insertionsOf d (store.numbered part.property next refs) cs = m.insertionsOf d store cs := by
  simp only [insertionsOf, boundRows, List.flatMap_map, hkey.insertRow_numbered]

/-- The chunks that are answered are taken in one after the other, each of them durable before the next
one, and the fault is the next answer. -/
theorem KeyedBy.perform_answered (hm : m.Coherent) (hkey : m.KeyedBy part)
    {numbered : List (List κ × Int)} (hchunks : ∀ p ∈ numbered, p.1 ≠ [])
    (houtside : c.inTransaction = false) (hcalm : numbered ≠ [] → c.driver.Calm)
    (hanswers : Interrupts c.dialect f numbered c.driver.responses) (store : EntityStore κ)
    (total : Int) :
    ∃ total' calls answers sent,
      ((numbered.map Prod.fst).foldlM
          (fun total chunk => do return total + (← m.insertChunk chunk)) total :
        Action (Connection × EntityStore κ) Int).perform (c, store) =
          (.ok total', (c.after calls answers sent, numberedChunks part.property store numbered)) ∧
      c.driver.hearAll calls = c.driver.after calls answers ∧
      (c.driver.after calls answers).nextResponse.fault = some f ∧
      c.dialect.handed "INSERT" calls = m.insertionsOf c.dialect store (numbered.map Prod.fst) ∧
      ∀ (l : Ledger) heard, l.Rests heard → c.driver.trace ++ calls <+: heard →
        (l.afterCalls c.driver calls).insertions c.dialect heard =
          l.insertions c.dialect heard ++
            m.insertionsOf c.dialect store (numbered.map Prod.fst) := by
  induction numbered generalizing c store total with
  | nil => exact ⟨total, [], 0, 0, by simp [numberedChunks], by simp [Driver.after], hanswers, rfl,
      fun l heard _ _ => by simp [insertionsOf, Ledger.afterCalls]⟩
  | cons p numbered ih =>
      obtain ⟨chunk, first⟩ := p
      obtain ⟨hexposes, hlast, hrest⟩ := hanswers
      have hrows : 0 < chunk.length := List.length_pos_iff.mpr (hchunks _ List.mem_cons_self)
      have hcalm := hcalm (List.cons_ne_nil _ _)
      have hchunk := TableMap.perform_insertChunk hm hcalm
        (hkey.answered_of_exposes hrows hexposes hlast) (hkey.perform_assignKeys chunk first store)
      have htaken : m.answersTaken c.dialect c.driver.responses =
          if c.dialect = .sqlServer then 2 else 1 := by
        rw [answersTaken, hkey.asks_of_exposes hrows hexposes]
        simp
      have htook := m.hearAll_insertionCalls hcalm (chunk.map store)
      rw [← htaken] at hrest
      generalize hfront : m.insertionCalls c (m.insertCall c.dialect (chunk.map store)) ++
        [.closeCursor] = front at hchunk htook
      generalize m.answersTaken c.dialect c.driver.responses = taken at hchunk htook hrest
      obtain ⟨total', calls, answers, sent, hrun, hheard, hfault, hhanded, hkept⟩ :=
        ih (c := c.after front taken 1) (fun p hp => hchunks p (List.mem_cons_of_mem _ hp)) houtside
          (fun _ => hcalm.after _ _) hrest (store.numbered part.property first chunk)
          (total + chunk.length)
      rw [Connection.dialect_after, hkey.insertionsOf_numbered] at hhanded hkept
      refine ⟨total', front ++ calls, taken + answers, 1 + sent, ?_, ?_, ?_, ?_, ?_⟩
      · simpa [List.foldlM_cons, perform_bind, hchunk, Except.map, numberedChunks] using hrun
      · rw [Driver.hearAll_append, htook, ← Connection.driver_after c front taken 1, hheard,
          Connection.driver_after, Driver.after_after]
      · rwa [Connection.driver_after, Driver.after_after] at hfault
      · rw [Dialect.handed_append, ← hfront, handed_insertionCalls, hhanded]
        simp [insertionsOf]
      · intro l heard hrests hprefix
        have hfirst : c.driver.trace ++ front <+: heard := by
          rw [← List.append_assoc] at hprefix
          exact (List.prefix_append _ _).trans hprefix
        rw [← hfront] at hfirst
        obtain ⟨hrests', hfirst⟩ := m.insertions_afterCalls houtside hcalm hexposes.fault hrests hfirst
        rw [hfront] at hrests' hfirst
        have hlater := hkept _ heard hrests' (by simpa using hprefix)
        rw [Ledger.afterCalls_append, htook, ← Connection.driver_after c front taken 1, hlater, hfirst]
        simp [insertionsOf]

/-! ## The entities -/

section Numbered

variable {numbered : List (List κ × Int)}

theorem numberedChunks_of_not_mem (p : String) (store : EntityStore κ) {ref : κ}
    (h : ref ∉ (numbered.map Prod.fst).flatten) : numberedChunks p store numbered ref = store ref := by
  induction numbered generalizing store with
  | nil => rfl
  | cons q numbered ih =>
      rw [List.map_cons, List.flatten_cons, List.mem_append, not_or] at h
      exact (ih _ h.2).trans (store.numbered_of_not_mem p q.2 h.1)

/-- An entity that is given once gets its number in its chunk. -/
theorem numberedChunks_getElem (p : String) (store : EntityStore κ)
    (hrefs : (numbered.map Prod.fst).flatten.Nodup) {chunk : List κ} {first : Int}
    (hchunk : (chunk, first) ∈ numbered) {i : Nat} (h : i < chunk.length) :
    numberedChunks p store numbered chunk[i] = (store chunk[i]).set p (.int (first + i)) := by
  induction numbered generalizing store with
  | nil => contradiction
  | cons q numbered ih =>
      rw [List.map_cons, List.flatten_cons, List.nodup_append] at hrefs
      obtain ⟨hfirst, hrest, hdisjoint⟩ := hrefs
      rcases List.mem_cons.mp hchunk with rfl | hchunk
      · have hlater : chunk[i] ∉ (numbered.map Prod.fst).flatten :=
          fun hmem => hdisjoint _ (List.getElem_mem h) _ hmem rfl
        exact (numberedChunks_of_not_mem p _ hlater).trans (store.numbered_getElem p first hfirst h)
      · have hearlier : chunk[i] ∉ q.1 := fun hmem => hdisjoint _ hmem _
          (List.mem_flatten.mpr ⟨chunk, List.mem_map.mpr ⟨_, hchunk, rfl⟩, List.getElem_mem h⟩) rfl
        have hkept := store.numbered_of_not_mem p q.2 hearlier
        exact (ih _ hrest hchunk).trans (congrArg (·.set p (.int (first + i))) hkept)

end Numbered

/-- A bulk insertion outside a transaction, of which the driver refuses the insertion of one chunk: this
failure is passed on under the insertion, nothing is sent behind it, exactly the chunks before it are
durable, their entities have their numbers, and all other entities are as they were. -/
theorem insertAll_interrupted (hm : m.Resolved) (hkey : m.KeyedBy part)
    (hproperties : m.insertProperties ≠ []) (hrefs : refs.Nodup) (limit : ParameterLimit)
    (store : EntityStore κ) (htypes : ∀ ref ∈ refs, (store ref).type = m.type)
    (houtside : c.inTransaction = false)
    {numbered : List (List κ × Int)} {chunk : List κ} {behind : List (List κ)}
    (hchunks : chunks (limit.capacity m.insertProperties.length) refs =
      numbered.map Prod.fst ++ chunk :: behind)
    (hforeign : f.kind.isLibrary = false) (hopen : c.driver.waiting? .openCursor = none)
    (hclose : c.driver.waiting? .closeCursor = none)
    (hcommit : numbered ≠ [] → c.driver.waiting? .commit = none)
    (hanswers : Interrupts c.dialect f numbered c.driver.responses) :
    ∃ c' store' calls,
      (m.insertAll limit refs).perform (c, store) =
        (.error (.execution insertOperation (some (m.insertText c.dialect chunk.length))
          (some (.fault f))), (c', store')) ∧
      c'.driver.trace = c.driver.trace ++ calls ∧
      c.dialect.handed "INSERT" calls =
        m.insertionsOf c.dialect store (numbered.map Prod.fst ++ [chunk]) ∧
      (Ledger.upTo {} c.driver c'.driver).insertions c.dialect c'.driver.trace =
        m.insertionsOf c.dialect store (numbered.map Prod.fst) ∧
      (∀ chunk first, (chunk, first) ∈ numbered → ∀ i (h : i < chunk.length),
        store' chunk[i] = (store chunk[i]).set part.property (.int (first + i))) ∧
      ∀ ref, ref ∈ chunk ++ behind.flatten ∨ ref ∉ refs → store' ref = store ref := by
  have hvalid : m.checkInsertion (refs.map store) = .ok () :=
    hkey.checkInsertion_eq hproperties (by simpa using htypes)
  have hnonempty : ∀ p ∈ numbered, p.1 ≠ [] := by
    intro p hp
    have hmem : p.1 ∈ chunks (limit.capacity m.insertProperties.length) refs := by
      rw [hchunks]
      exact List.mem_append_left _ (List.mem_map.mpr ⟨p, hp, rfl⟩)
    exact List.length_pos_iff.mp (length_of_mem_chunks (limit.capacity_pos _) hmem).1
  have hall : refs = (numbered.map Prod.fst).flatten ++ (chunk ++ behind.flatten) := by
    rw [← flatten_chunks (limit.capacity m.insertProperties.length) refs, hchunks]
    simp
  obtain ⟨hfirst, -, hdisjoint⟩ := List.nodup_append.mp (hall ▸ hrefs)
  obtain ⟨total, calls, answers, sent, hrun, hheard, hfault, hhanded, hkept⟩ :=
    hkey.perform_answered hm.coherent hnonempty houtside (fun h => ⟨hopen, hclose, hcommit h⟩)
      hanswers store 0
  obtain ⟨c', hrefused, hdriver⟩ := perform_insertChunk_of_refused (c := c.after calls answers sent)
    hm.coherent chunk (numberedChunks part.property store numbered) hopen hclose hfault
  have hnamed : Statement.failedBy
      { sql := m.insertText c.dialect chunk.length, operation := insertOperation } f =
        .execution insertOperation (some (m.insertText c.dialect chunk.length)) (some (.fault f)) :=
    if_neg (by simp [Failure.isLibrary, hforeign])
  have hrolled : (c.after calls answers sent).rollbackCalls = [.rollback] :=
    if_neg (by simp [houtside])
  have hsame : chunk.map (numberedChunks part.property store numbered) = chunk.map store :=
    List.map_congr_left fun ref href => numberedChunks_of_not_mem _ _ fun hmem =>
      hdisjoint ref hmem ref (List.mem_append_left _ href) rfl
  rw [Connection.dialect_after, hnamed] at hrefused
  rw [hrolled, Connection.driver_after, ← hheard, ← Driver.hearAll_append,
    Connection.dialect_after, hsame] at hdriver
  generalize hmore : .openCursor :: m.insertCall c.dialect (chunk.map store) ::
    ([.rollback] ++ [.closeCursor]) = more at hdriver
  have htrace : c'.driver.trace = c.driver.trace ++ (calls ++ more) := by
    rw [hdriver, Driver.trace_hearAll]
  refine ⟨c', numberedChunks part.property store numbered, calls ++ more, ?run, htrace, ?handed,
    ?kept, ?numbered, ?others⟩
  case run =>
    have hrefs' : refs ≠ [] := by
      rintro rfl
      simp [chunks] at hchunks
    rw [perform_insertAll_eq hrefs' hvalid, inChunks, hchunks, List.foldlM_append,
      perform_bind_ok hrun, List.foldlM_cons]
    exact perform_bind_error (perform_bind_error hrefused)
  case handed =>
    rw [Dialect.handed_append, hhanded, ← hmore, m.handed_insertion _ rfl]
    simp [insertionsOf]
  case kept =>
    have hcommitless : ∀ call ∈ more, call ≠ .commit := by
      rw [← hmore]
      simp [insertCall]
    have hprefix : c.driver.trace ++ calls <+: c'.driver.trace := by
      rw [htrace, ← List.append_assoc]
      exact List.prefix_append _ _
    rw [hdriver, Ledger.upTo_hearAll, Ledger.afterCalls_append, Ledger.insertions,
      Ledger.durable_afterCalls hcommitless, ← hdriver]
    refine (hkept {} c'.driver.trace (fun _ h => by contradiction) hprefix).trans ?_
    rfl
  case numbered =>
    exact fun chunk first hmem i h => numberedChunks_getElem _ _ hfirst hmem h
  case others =>
    rintro ref (href | href)
    · exact numberedChunks_of_not_mem _ _ fun hmem => hdisjoint ref hmem ref (by simpa using href) rfl
    · rw [hall, List.mem_append, not_or] at href
      exact numberedChunks_of_not_mem _ _ href.1

def fullDisk : Fault := ⟨.driver .sqlite .operational, "database or disk is full"⟩

/-- A driver that numbers one insertion from eight on and refuses the next one. -/
def fillingConnection : Connection :=
  { dialect := .sqlite
    driver :=
      { responses := [{ rowCount := some 2, lastRowId := .int 9 }, { fault := some fullDisk }] } }

/-- Of three items in two chunks, the first two are kept. -/
theorem insertAll_interrupted_items :
    ∃ c' store' calls,
      (itemMap.insertAll pairLimit [0, 1, 2]).perform (fillingConnection, itemStore) =
        (.error (.execution insertOperation (some (itemMap.insertText .sqlite 1))
          (some (.fault fullDisk))), (c', store')) ∧
      c'.driver.trace = [] ++ calls ∧
      Dialect.sqlite.handed "INSERT" calls = itemMap.insertionsOf .sqlite itemStore [[0, 1], [2]] ∧
      (Ledger.upTo {} fillingConnection.driver c'.driver).insertions .sqlite c'.driver.trace =
        itemMap.insertionsOf .sqlite itemStore [[0, 1]] ∧
      store' 1 = (itemStore 1).set "id" (.int 9) ∧ store' 2 = itemStore 2 := by
  have hchunks : chunks (pairLimit.capacity itemMap.insertProperties.length) [0, 1, 2] =
      [([0, 1], (8 : Int))].map Prod.fst ++ [2] :: [] := by decide +kernel
  have hexposes : Exposes .sqlite 8 2 { rowCount := some 2, lastRowId := .int 9 } :=
    ⟨rfl, rfl, rfl, nofun, fun _ => rfl, nofun⟩
  obtain ⟨c', store', calls, hrun, htrace, hhanded, hkept, hnumbered, hothers⟩ :=
    insertAll_interrupted (c := fillingConnection) resolved_itemMap keyedBy_itemMap (by decide)
      (by decide) pairLimit itemStore (fun _ _ => rfl) rfl hchunks
      (show fullDisk.kind.isLibrary = false by decide) rfl rfl (fun _ => rfl)
      ⟨hexposes, nofun, rfl⟩
  exact ⟨c', store', calls, hrun, htrace, hhanded, hkept,
    hnumbered [0, 1] 8 List.mem_cons_self 1 (by decide), hothers 2 (.inl List.mem_cons_self)⟩

def staleCursor : Fault := ⟨.driver .sqlite .programming, "Cannot operate on a closed cursor."⟩

/-- A driver that refuses an insertion, and to close its cursor as well. -/
def stuckConnection : Connection :=
  { dialect := .sqlite
    driver := { responses := [{ fault := some fullDisk }], faults := [(.closeCursor, staleCursor)] } }

/-- Where the cursor of the refused insertion cannot be closed, that failure takes the place of the
insertion's own, which does not come out under its name. -/
theorem unnamed_refused_close :
    let r := (itemMap.insertAll pairLimit [0]).perform (stuckConnection, itemStore)
    stuckConnection.inTransaction = false ∧ fullDisk.kind.isLibrary = false ∧
      chunks (pairLimit.capacity itemMap.insertProperties.length) [0] = [[0]] ∧
      stuckConnection.driver.waiting? .openCursor = none ∧
      Interrupts .sqlite fullDisk ([] : List (List Nat × Int)) stuckConnection.driver.responses ∧
      r.1 = .error (.fault staleCursor) ∧
      ∀ operation sql cause, r.1 ≠ .error (.execution operation sql cause) := by
  intro r
  have hchunks : chunks (pairLimit.capacity itemMap.insertProperties.length) [0] = [[0]] := by
    decide +kernel
  have hraised : r.1 = .error (.fault staleCursor) := by
    have hvalid : itemMap.checkInsertion ([0].map itemStore) = .ok () := rfl
    simp only [r, perform_insertAll_eq (by simp) hvalid, inChunks, hchunks]
    rfl
  refine ⟨rfl, rfl, hchunks, rfl, rfl, hraised, fun operation sql cause h => ?_⟩
  rw [hraised] at h
  cases h

end TableMap

end RelationalMapper
