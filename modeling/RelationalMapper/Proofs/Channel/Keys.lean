import RelationalMapper.Proofs.Channel.Outcome

/-! # What a driver tells of generated keys

The answer to an insertion tells the first key or the last one, or the last one is asked for through
the open cursor. -/

namespace RelationalMapper

namespace Keys

/-- The last key has to be asked for. -/
def asks (d : Dialect) (count : Int) : Bool := d = .sqlServer && 0 < count

/-- The calls by which it is asked for. -/
def askCalls (d : Dialect) (count : Int) : List Call :=
  if asks d count then [.execute lastKeyQuery none, .fetchOne] else []

/-- The keys of `count` rows by the answer to the insertion and by the next one, which is about the
last key. -/
def told (d : Dialect) (answer next : Response) (count : Int) : Except Failure (List Value) :=
  match d with
  | .postgres => .ok []
  | .mySql => fromFirst answer.lastRowId count
  | .sqlite => upToLast answer.lastRowId count
  | .sqlServer =>
    if count ≤ 0 then .ok []
    else (next.firstRow.elim (.ok none) keyIn).map fun last => last.elim [] (endingAt · count)

variable {c : Connection} {s : Statement}

theorem perform_lastKey {next : Response} {last : Option Int}
    (hnext : c.driver.nextResponse = next) (hfault : next.fault = none)
    (hfetch : next.fetchFault = none) (hlast : next.firstRow.elim (.ok none) keyIn = .ok last) :
    lastKey.perform ⟨c, s⟩ = (.ok last,
      ⟨c.after [.execute lastKeyQuery none, .fetchOne] 1 0, { s with cursor := some next }⟩) := by
  have hsend := Driver.perform_send (d := c.driver) (by rw [hnext, hfault])
    (.execute lastKeyQuery none)
  rw [hnext] at hsend
  cases hrow : next.firstRow with
  | none =>
      rw [hrow] at hlast
      simp [lastKey, Action.perform_bind, Channel.perform_onDriver, hsend, Channel.perform_change,
        Driver.perform_fetch hfetch, hrow, Connection.after, Except.map, ← Except.ok.inj hlast]
  | some row =>
      have hkey : keyIn row = .ok last := by simpa [hrow] using hlast
      simp [lastKey, Action.perform_bind, Channel.perform_onDriver, hsend, Channel.perform_change,
        Driver.perform_fetch hfetch, hrow, Connection.after, hkey]

end Keys

namespace Channel

open Keys

variable {c : Connection} {s : Statement} {answer next : Response} {keys : List Value}

theorem perform_keysOf {count : Int}
    (hnext : asks c.dialect count = true → c.driver.nextResponse = next ∧ next.fault = none ∧
      next.fetchFault = none)
    (hcursor : s.cursor = some answer) (hkeys : told c.dialect answer next count = .ok keys) :
    (keysOf answer count).perform ⟨c, s⟩ = (.ok keys,
      ⟨c.after (askCalls c.dialect count) (if asks c.dialect count then 1 else 0) 0,
        { s with cursor := some (if asks c.dialect count then next else answer) }⟩) := by
  have hsame : { s with cursor := some answer } = s := by rw [← hcursor]
  unfold keysOf
  cases hd : c.dialect with
  | postgres =>
      rw [hd] at hkeys
      simp [Action.perform_bind, hd, askCalls, asks, hsame, ← Except.ok.inj hkeys]
  | mySql =>
      have hfirst : fromFirst answer.lastRowId count = .ok keys := by rw [← hkeys, hd]; rfl
      simp [Action.perform_bind, hd, askCalls, asks, hsame, hfirst]
  | sqlite =>
      have hlast : upToLast answer.lastRowId count = .ok keys := by rw [← hkeys, hd]; rfl
      simp [Action.perform_bind, hd, askCalls, asks, hsame, hlast]
  | sqlServer =>
      rw [hd] at hkeys hnext
      by_cases hcount : count ≤ 0
      · have hnone : asks .sqlServer count = false := by simp [asks]; omega
        rw [told, if_pos hcount] at hkeys
        simp [Action.perform_bind, hd, askCalls, hnone, hsame, hcount, ← Except.ok.inj hkeys]
      · have hasks : asks .sqlServer count = true := by simp [asks]; omega
        obtain ⟨hnext, hfault, hfetch⟩ := hnext hasks
        rw [told, if_neg hcount] at hkeys
        obtain ⟨last, hlast, hkeys⟩ := map_eq_ok.mp hkeys
        simp [Action.perform_bind, hd, askCalls, hasks, hcount, Except.map, hkeys,
          perform_lastKey (s := s) hnext hfault hfetch hlast]

/-- What is told of the keys comes back, and nothing is asked but the last key. -/
theorem perform_generatedKeys
    (hnext : asks c.dialect s.rowCount = true → c.driver.nextResponse = next ∧
      next.fault = none ∧ next.fetchFault = none)
    (hcursor : s.cursor = some answer) (hkeys : told c.dialect answer next s.rowCount = .ok keys) :
    generatedKeys.perform ⟨c, s⟩ = (.ok keys,
      ⟨c.after (askCalls c.dialect s.rowCount) (if asks c.dialect s.rowCount then 1 else 0) 0,
        { s with cursor := some (if asks c.dialect s.rowCount then next else answer) }⟩) := by
  have h := perform_keysOf hnext hcursor hkeys
  simp [generatedKeys, Action.perform_bind, hcursor, Action.perform_tryCatch, h]

end Channel

end RelationalMapper
