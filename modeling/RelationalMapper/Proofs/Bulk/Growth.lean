import RelationalMapper.Proofs.Bulk.Calls
import RelationalMapper.Proofs.Bulk.Insertion
import RelationalMapper.Proofs.Channel.Growth

/-! # The calls of an insertion, whatever is answered

The statement comes first, and after an answer with rows the question for the last key, where keys
are asked for. -/

namespace RelationalMapper

open RelationalMapper.Action

namespace TableMap

section Growth

variable {m : TableMap} {c : Connection} {s : Statement}

/-- The statement itself comes first. -/
theorem prefix_sendInsertion (params : List Value) (hfaults : c.driver.faults = [])
    (hcursor : s.cursor = none) :
    c.trace ++ [.openCursor, Channel.executeCall c s params] <+:
      Channel.trace ((m.sendInsertion params).perform ⟨c, s⟩).2 := by
  have honce := Channel.prefix_executeOnce (s := s.bindAll params) hfaults hcursor
    (s.parameters_bindAll params)
  unfold sendInsertion
  rw [perform_bind_ok (perform_get _), perform_bind_ok (Channel.perform_change _ _)]
  split
  · exact honce.trans ((Channel.prefix_executeQuery _).trans
      (prefix_bind _ (fun _ => grows_pure _) _))
  · refine honce.trans ((Channel.prefix_executeUpdate _).trans
      (prefix_bind _ (fun count => ?_) _))
    split
    · exact grows_pure _
    · exact Channel.grows_generatedKeys.bind fun _ => grows_pure _

/-- After an answer with rows, the last key is asked for, where that is the way. -/
theorem prefix_sendInsertion_asking (params : List Value) (hcalm : c.driver.Calm)
    (hcursor : s.cursor = none) (hdialect : c.dialect = .sqlServer)
    (hkey : m.singleAutoKey?.isSome = true) (hfault : c.driver.nextResponse.fault = none) {n : Int}
    (hcount : c.driver.nextResponse.rowCount = some n) (hpositive : 0 < n) :
    c.trace ++ .openCursor :: Channel.executeCall c s params ::
        (c.commitCalls ++ [.execute Keys.lastKeyQuery none]) <+:
      Channel.trace ((m.sendInsertion params).perform ⟨c, s⟩).2 := by
  have hreturned : ¬(m.returnedKey? c.dialect).isSome = true := by
    simp [returnedKey?, Dialect.returnsKeys, hdialect]
  have hnotnone : ¬m.singleAutoKey?.isNone = true := by
    simpa [Option.isSome_iff_ne_none] using hkey
  have hupdate := Channel.perform_executeUpdate (s := s.bindAll params) hcalm hcursor
    (s.parameters_bindAll params) rfl hfault hcount
  unfold sendInsertion
  rw [perform_bind_ok (perform_get _), perform_bind_ok (Channel.perform_change _ _),
    if_neg hreturned, perform_bind_ok hupdate, if_neg hnotnone]
  let sent : Channel := ⟨c.after (.openCursor ::
      Channel.executeCall c (s.bindAll params) params :: c.commitCalls) 1 1,
    { s.bindAll params with cursor := some c.driver.nextResponse, rowCount := max n 0 }⟩
  have hsent : c.trace ++ .openCursor :: Channel.executeCall c s params ::
      (c.commitCalls ++ [.execute Keys.lastKeyQuery none]) =
        sent.trace ++ [.execute Keys.lastKeyQuery none] := by
    simp [sent, Channel.trace, Connection.trace]
  have hrows : 0 < sent.statement.rowCount := by
    simp only [sent]
    omega
  have hcursor : sent.statement.cursor = some c.driver.nextResponse := rfl
  have hasked := Channel.prefix_keysOf (show sent.connection.dialect = .sqlServer from hdialect)
    hrows c.driver.nextResponse
  rw [hsent]
  refine (hasked.trans (Channel.prefix_generatedKeys hcursor)).trans ?_
  exact prefix_bind _ (fun _ => grows_pure _) _

variable {κ : Type} [DecidableEq κ]

theorem prefix_sendKeyed (refs : List κ) (params : List Value) (p : Channel × EntityStore κ) :
    Channel.traceOf ((m.sendInsertion params).first.perform p).2 <+:
      Channel.traceOf ((m.sendKeyed refs params).perform p).2 := by
  refine prefix_bind _ (fun sent => ?_) p
  exact (Channel.grows_second (m.assignKeys refs sent.2)).bind fun _ => grows_pure sent.1

theorem grows_insertChunk (refs : List κ) : Grows Connection.traceOf (m.insertChunk refs) :=
  fun p =>
    have hpasses := passes_insertChunk (Connection.conduct_advances _ fun _ => True) trivial refs p
    Connection.Advances.prefix_trace hpasses

theorem grows_insertChunks (cs : List (List κ)) (total : Int) :
    Grows Connection.traceOf (cs.foldlM
      (fun total chunk => do return total + (← m.insertChunk chunk)) total :
        Action (Connection × EntityStore κ) Int) :=
  grows_foldlM (fun _ chunk => (grows_insertChunk chunk).bind fun _ => grows_pure _) total cs

/-- What sends an insertion stands first among the calls for its chunk. -/
theorem prefix_insertChunk (hm : m.Coherent) (refs : List κ) (store : EntityStore κ) :
    Channel.trace ((m.sendInsertion (refs.flatMap fun ref => m.insertRow (store ref))).perform
        ⟨c, { sql := m.insertText c.dialect refs.length, operation := insertOperation }⟩).2 <+:
      Connection.traceOf ((m.insertChunk refs).perform (c, store)).2 := by
  rw [insertChunk_eq hm]
  exact (prefix_sendKeyed refs _ _).trans (Connection.prefix_withStatement _ _ _ c store)

end Growth

end TableMap

end RelationalMapper
