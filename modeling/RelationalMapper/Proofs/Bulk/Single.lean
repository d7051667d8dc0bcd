import RelationalMapper.Proofs.Bulk.Chunk
import RelationalMapper.Proofs.Bulk.Insertion
import RelationalMapper.Proofs.Channel.Quiet
import RelationalMapper.Proofs.Dialect.Written

/-! # One entity that is inserted

Whatever the driver answers and whatever faults wait in it: an insertion that succeeds has handed over
one statement with the values of the entity, and has changed nothing of the entity but its automatic
key. The columns of the values stand in the statement's text. -/

namespace RelationalMapper

open RelationalMapper.Action

/-! ## The columns of an insertion -/

namespace Sql

def Word.identifier? : Word → Option String
  | name identifier => some identifier
  | _ => none

/-- The names in the first group of an insertion. -/
def insertedColumns (sql : String) : List String :=
  ((((words sql).dropWhile (· ≠ .symbol "(")).drop 1).takeWhile (· ≠ .symbol ")")).filterMap
    Word.identifier?

end Sql

namespace Dialect

theorem identifiers_namesWritten (columns : List String) :
    ((namesWritten columns).flatMap Sql.Fragment.words).filterMap Sql.Word.identifier? = columns := by
  have hcomma : Sql.textWords ", ".toList = [.symbol ","] := by decide
  rw [namesWritten, Sql.Written.words_joined, hcomma, List.map_map,
    Sql.filterMap_intercalate rfl]
  exact List.flatMap_singleton' columns

/-- An insertion names its columns in their order. -/
theorem insertedColumns_renderInsertion (d : Dialect) (s : Insertion) :
    Sql.insertedColumns (d.renderInsertion s) = s.columns := by
  have hinside : ∀ word ∈ (namesWritten s.columns).flatMap Sql.Fragment.words,
      (word ≠ .symbol ")") = true := by
    intro word hword
    rcases words_namesWritten hword with rfl | ⟨column, rfl⟩ <;> simp
  rw [Sql.insertedColumns, words_renderInsertion, insertionHead]
  simp only [List.cons_append, List.nil_append, List.append_assoc]
  rw [List.dropWhile_cons_of_pos (by simp), List.dropWhile_cons_of_pos (by simp),
    List.dropWhile_cons_of_pos (by simp), List.dropWhile_cons_of_neg (by simp), List.drop_one,
    List.tail_cons, List.takeWhile_append_of_pos (by simpa using hinside),
    List.takeWhile_cons_of_neg (by simp), List.append_nil, identifiers_namesWritten]

/-- What is quiet inserts nothing. -/
theorem handed_of_quiet {d : Dialect} {calls : List Call} (h : ∀ call ∈ calls, call.Quiet) :
    d.handed "INSERT" calls = [] := by
  have hlast : d.handed "INSERT" [.execute Keys.lastKeyQuery none] = [] := by
    cases d <;> decide +kernel
  induction calls with
  | nil => rfl
  | cons call calls ih =>
      have hrest := ih fun other ho => h other (List.mem_cons_of_mem call ho)
      have hcall : d.handed "INSERT" [call] = [] := by
        rcases h call List.mem_cons_self with hcall | rfl
        · cases call <;> first | rfl | contradiction
        · exact hlast
      rw [← List.singleton_append, handed_append, hcall, hrest]
      rfl

end Dialect

/-! ## The run -/

/-- A block on a statement that succeeds leaves what it made of the connection and of what stood
beside it, but for closing the cursor. -/
theorem Connection.of_withStatement_ok {ε α : Type} {sql operation : String}
    {block : Action (Channel × ε) α} {c c' : Connection} {e e' : ε} {a : α}
    (h : (withStatement sql operation block).perform (c, e) = (.ok a, (c', e'))) :
    ∃ ch, block.perform (⟨c, { sql, operation }⟩, e) = (.ok a, (ch, e')) ∧
      ch.connection.KeepsSilent c' := by
  simp only [withStatement, perform_ofFunction, perform_tryFinally] at h
  rcases hblock : block.perform (⟨c, { sql, operation }⟩, e) with ⟨r, ch, e''⟩
  have hclose := Channel.silent_close ch
  rw [hblock, perform_first] at h
  rcases hclosed : Channel.close.perform ch with ⟨_ | _, ch'⟩
  · simp [hclosed] at h
  · simp only [hclosed, Prod.mk.injEq] at h
    obtain ⟨rfl, rfl, rfl⟩ := h
    rw [hclosed] at hclose
    exact ⟨ch, rfl, hclose⟩

namespace TableMap

variable {m : TableMap}

theorem sentQuietly_of_sendInsertion {c : Connection} {s : Statement} {params : List Value}
    {ch' : Channel} {told : Int × List (Except Failure Value)} (hcursor : s.cursor = none)
    (h : (m.sendInsertion params).perform ⟨c, s⟩ = (.ok told, ch')) :
    Channel.SentQuietly c (Channel.executeCall c s params) ch'.connection := by
  have hparams := s.parameters_bindAll params
  rw [← Channel.executeCall_bindAll c s params]
  simp only [sendInsertion, perform_bind, perform_get, Channel.perform_change] at h
  split at h
  · obtain ⟨rows, sent, hquery, hrest⟩ := of_perform_bind_ok h
    obtain ⟨-, rfl⟩ := Prod.mk.inj hrest
    exact Channel.sentQuietly_of_executeQuery hcursor hparams hquery
  · obtain ⟨count, sent, hupdate, hrest⟩ := of_perform_bind_ok h
    have hsent := Channel.sentQuietly_of_executeUpdate (s := s.bindAll params) hcursor hparams
      hupdate
    split at hrest
    · obtain ⟨-, rfl⟩ := Prod.mk.inj hrest
      exact hsent
    · obtain ⟨keys, done, hkeys, hrest⟩ := of_perform_bind_ok hrest
      obtain ⟨-, rfl⟩ := Prod.mk.inj hrest
      have hquiet := Channel.settles_generatedKeys sent
      rw [hkeys] at hquiet
      exact hsent.settles hquiet

/-- An insertion that succeeds sent the values of the entity, which it still has. -/
theorem sentQuietly_of_insert (hm : m.Coherent) {c c' : Connection} {e e' : Entity} {n : Int}
    (h : m.insert.perform (c, e) = (.ok n, (c', e'))) :
    m.insertRow e' = m.insertRow e ∧
      Channel.SentQuietly c (m.insertCall c.dialect [e]) c' := by
  simp only [insert, perform_bind, perform_get, perform_ofExcept, insertValues_eq hm e] at h
  cases hcheck : m.checkInsertable with
  | error f => simp [hcheck] at h
  | ok u =>
      simp only [hcheck] at h
      obtain ⟨ch, hblock, hclosed⟩ := Connection.of_withStatement_ok h
      obtain ⟨⟨count, keys⟩, ⟨sent, e₁⟩, hfirst, hblock⟩ := of_perform_bind_ok hblock
      obtain ⟨hsend, rfl⟩ := of_perform_first hfirst
      have hsent := sentQuietly_of_sendInsertion rfl hsend
      have hrow : m.insertRow e' = m.insertRow e ∧ ch = sent := by
        cases keys with
        | nil =>
            obtain ⟨-, rfl, rfl⟩ := hblock
            exact ⟨rfl, rfl⟩
        | cons key rest =>
            obtain ⟨keyed, p, htaken, hblock⟩ := of_perform_bind_ok hblock
            rw [perform_ofExcept] at htaken
            obtain ⟨hkeyed, rfl⟩ := Prod.mk.inj htaken
            obtain ⟨-, rfl, rfl⟩ := hblock
            exact ⟨insertRow_of_withKey hkeyed, rfl⟩
      obtain ⟨hrow, rfl⟩ := hrow
      refine ⟨hrow, ?_⟩
      have hcall : Channel.executeCall c
          { sql := m.insertText c.dialect 1, operation := insertOperation } (m.insertRow e) =
            m.insertCall c.dialect [e] := by
        simp [Channel.executeCall, insertCall, boundRows]
      rw [← hcall]
      exact hsent.settles hclosed.settles

/-- What an insertion handed over: one statement, which names the columns of the values. -/
theorem handed_of_insert (hm : m.Coherent) {c c' : Connection} {e e' : Entity} {n : Int}
    (h : m.insert.perform (c, e) = (.ok n, (c', e'))) :
    ∃ calls sql, c'.driver.trace = c.driver.trace ++ calls ∧
      c.dialect.handed "INSERT" calls =
        [(sql, (m.insertRow e').map (·.bound c.dialect.bindingStyle))] ∧
      Sql.insertedColumns sql = m.insertProperties.values := by
  obtain ⟨hrow, sent, ⟨hdialect, htrace⟩, -, calls, hcalls, hquiet⟩ := sentQuietly_of_insert hm h
  refine ⟨[.openCursor, m.insertCall c.dialect [e]] ++ calls, m.insertText c.dialect 1, ?_, ?_,
    c.dialect.insertedColumns_renderInsertion _⟩
  · rw [hcalls, htrace, List.append_assoc]
  · have hopened : c.dialect.handed "INSERT" [.openCursor] = [] := rfl
    have hsent : c.dialect.handed "INSERT" [m.insertCall c.dialect [e]] =
        [(m.insertText c.dialect 1, m.boundRows c.dialect [e])] :=
      Dialect.handed_execute (c.dialect.beginsWith_renderInsertion _) _
    rw [Dialect.handed_append, Dialect.handed_of_quiet hquiet, List.append_nil,
      ← List.singleton_append, Dialect.handed_append, hopened, hsent, hrow]
    simp [boundRows]

end TableMap

end RelationalMapper
