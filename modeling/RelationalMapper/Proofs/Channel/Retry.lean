import Mathlib.Data.ENat.Lattice
import Mathlib.Tactic.Choose
import RelationalMapper.Channel.Opening

/-! # Runs of attempts

An attempt is repeated as long as it fails with a fault that is worth another attempt and there is
another one. The last attempt decides the result; between two attempts there are one pause and one
warning, and each pause is the one before it times the factor. -/

namespace RelationalMapper

open Number

namespace Pause

variable {a b : Pause}

/-- Both lengths are whole, and so is their product. -/
def BothWhole (a b : Pause) : Prop := ∃ m n, a = .whole m ∧ b = .whole n

theorem not_bothWhole_fraction (x : Double) : ¬BothWhole (.fraction x) b := by
  rintro ⟨_, _, h, _⟩
  cases h

theorem times_of_seconds {x y : Double} (hfraction : ¬BothWhole a b) (hx : a.seconds? = some x)
    (hy : b.seconds? = some y) : a.times b = .ok (.fraction (x.mul y)) := by
  cases a with
  | whole m =>
      cases b with
      | whole n => exact absurd ⟨m, n, rfl, rfl⟩ hfraction
      | fraction y => simp [times, hx, hy]
  | fraction x => simp [times, hx, hy]

theorem times_eq_error (hfraction : ¬BothWhole a b)
    (hrange : a.seconds? = none ∨ b.seconds? = none) :
    a.times b = .error (.overflow "int too large to convert to float") := by
  cases a with
  | whole m =>
      cases b with
      | whole n => exact absurd ⟨m, n, rfl, rfl⟩ hfraction
      | fraction y =>
          have hm : (whole m).seconds? = none := hrange.resolve_right (by simp [seconds?])
          simp [times, hm]
  | fraction x =>
      have hb : b.seconds? = none := hrange.resolve_left (by simp [seconds?])
      simp [times, hb]

end Pause

namespace RetryPolicy

variable {α : Type} (p : RetryPolicy)

/-- The outcome is a fault after which attempts go on. -/
def Repeats (outcome : Except Fault α) : Prop := ∃ f, outcome = .error f ∧ p.repeats f.kind = true

/-- An outcome as the result of a run. -/
def settled : Except Fault α → Except Failure (Option α)
  | .ok a => .ok (some a)
  | .error f => .error (.fault f)

/-- The position, counted from one, of the first outcome after which no attempt follows; infinite if
there is none. -/
noncomputable def settledAt (attempt : Nat → Except Fault α) : ℕ∞ :=
  ⨅ n, ⨅ _ : ¬p.Repeats (attempt n), (n : ℕ∞) + 1

/-! ## Pauses -/

/-- The pause behind so many others: the delay times as many factors, one product after the other. -/
def pause? (p : RetryPolicy) : Nat → Except Failure Pause
  | 0 => .ok p.delay
  | n + 1 => p.pause? n >>= fun pause => pause.times p.factor

/-- The delay can be multiplied by the factor: they are whole, or in the range of floating point. -/
def Paces : Prop :=
  p.delay.BothWhole p.factor ∨ ∃ x y, p.delay.seconds? = some x ∧ p.factor.seconds? = some y

variable {p}

theorem pause?_succ {n : Nat} {pause : Pause} (h : p.pause? n = .ok pause) :
    p.pause? (n + 1) = pause.times p.factor := by
  rw [pause?, h]
  rfl

/-- Whole numbers grow as powers do. -/
theorem pause?_whole {delay factor : Int} (hdelay : p.delay = .whole delay)
    (hfactor : p.factor = .whole factor) (n : Nat) :
    p.pause? n = .ok (.whole (delay * factor ^ n)) := by
  induction n with
  | zero => rw [pause?, hdelay, pow_zero, mul_one]
  | succ n ih =>
      rw [pause?_succ ih, hfactor, pow_succ, ← mul_assoc]
      rfl

/-- Numbers of which one is no whole number are multiplied, and rounded, one after the other. -/
theorem exists_pause?_seconds {delay factor : Double}
    (hfraction : ¬p.delay.BothWhole p.factor) (hdelay : p.delay.seconds? = some delay)
    (hfactor : p.factor.seconds? = some factor) (n : Nat) :
    ∃ pause, p.pause? n = .ok pause ∧ ¬pause.BothWhole p.factor ∧
      pause.seconds? = some ((·.mul factor)^[n] delay) := by
  induction n with
  | zero => exact ⟨p.delay, rfl, hfraction, hdelay⟩
  | succ n ih =>
      obtain ⟨pause, hpause, hkind, hseconds⟩ := ih
      refine ⟨_, (pause?_succ hpause).trans (Pause.times_of_seconds hkind hseconds hfactor),
        Pause.not_bothWhole_fraction _, ?_⟩
      rw [Function.iterate_succ_apply']
      rfl

/-- What can be multiplied by the factor once can be multiplied by it again and again. -/
theorem exists_pause? (h : p.Paces) (n : Nat) : ∃ pause, p.pause? n = .ok pause := by
  by_cases hwhole : p.delay.BothWhole p.factor
  · obtain ⟨m, k, hm, hk⟩ := hwhole
    exact ⟨_, pause?_whole hm hk n⟩
  · obtain ⟨x, y, hx, hy⟩ := h.resolve_left hwhole
    obtain ⟨pause, hpause, -⟩ := exists_pause?_seconds hwhole hx hy n
    exact ⟨pause, hpause⟩

theorem times_of_not_paces (h : ¬p.Paces) :
    p.delay.times p.factor = .error (.overflow "int too large to convert to float") := by
  refine Pause.times_eq_error (fun hwhole => h (.inl hwhole)) ?_
  by_contra hrange
  obtain ⟨hdelay, hfactor⟩ := not_or.mp hrange
  obtain ⟨x, hx⟩ := Option.ne_none_iff_exists'.mp hdelay
  obtain ⟨y, hy⟩ := Option.ne_none_iff_exists'.mp hfactor
  exact h (.inr ⟨x, y, hx, hy⟩)

/-! ## One attempt -/

variable {attempt : Nat → Except Fault α} {left number : Nat} {delay next : Pause} {f : Fault}

theorem attempts_of_not_repeats (h : ¬p.Repeats (attempt number)) :
    p.attempts attempt (left + 1) number delay = .ended (settled (attempt number)) [] := by
  rw [attempts]
  cases hattempt : attempt number with
  | ok a => rfl
  | error f =>
      have hrepeats : p.repeats f.kind = false := by
        apply Bool.eq_false_iff.mpr
        exact fun hf => h ⟨f, hattempt, hf⟩
      simp [hrepeats, settled]

/-- There is no attempt behind the last one. -/
theorem attempts_one (h : attempt number = .error f) (hf : p.repeats f.kind = true) :
    p.attempts attempt 1 number delay = .ended (.error (.fault f)) [p.exhausted f] := by
  simp [attempts, h, hf]

theorem attempts_succ (h : attempt number = .error f) (hf : p.repeats f.kind = true)
    (hnext : delay.times p.factor = .ok next) :
    p.attempts attempt (left + 2) number delay =
      .after delay (p.repeating (number + 1) f) (p.attempts attempt (left + 1) (number + 1) next) := by
  rw [attempts]
  simp [h, hf, hnext]

/-- A pause that cannot be multiplied by the factor is the last one. -/
theorem attempts_stopped {failure : Failure} (h : attempt number = .error f)
    (hf : p.repeats f.kind = true) (hnext : delay.times p.factor = .error failure) :
    p.attempts attempt (left + 2) number delay =
      { result := .error failure
        attempts := 1
        pauses := [delay]
        notices := [p.repeating (number + 1) f] } := by
  rw [attempts]
  simp [h, hf, hnext, RetryRun.after]

/-! ## Runs -/

/-- Attempts that are repeated come before the one that ends the run. -/
theorem attempts_of_repeated {pause : Nat → Pause} {fault : Nat → Fault} {k : Nat}
    {result : Except Failure (Option α)} {notices : List Notice}
    (hpause : ∀ n ≤ number + k, p.pause? n = .ok (pause n))
    (hfault : ∀ n, number ≤ n → n < number + k →
      attempt n = .error (fault n) ∧ p.repeats (fault n).kind = true)
    (hlast : p.attempts attempt (left + 1) (number + k) (pause (number + k)) =
      .ended result notices) :
    p.attempts attempt (left + k + 1) number (pause number) =
      { result
        attempts := k + 1
        pauses := (List.range' number k).map pause
        notices := (List.range' number k).map (fun n => p.repeating (n + 1) (fault n)) ++ notices } := by
  -- By the attempts that are still repeated; each of them moves on to the next number and pause.
  induction k generalizing number with
  | zero => exact hlast
  | succ k ih =>
      have hmove : number + (k + 1) = number + 1 + k := by omega
      rw [hmove] at hpause hfault hlast
      obtain ⟨hattempt, hrepeats⟩ := hfault number le_rfl (by omega)
      have hnext : (pause number).times p.factor = .ok (pause (number + 1)) := by
        rw [← pause?_succ (hpause number (by omega)), hpause (number + 1) (by omega)]
      have hrest := ih hpause (fun n hn => hfault n (by omega)) hlast
      rw [show left + (k + 1) + 1 = left + k + 2 by omega, attempts_succ hattempt hrepeats hnext,
        hrest]
      rfl

/-! ## Where attempts end -/

theorem le_settledAt {n : Nat} (h : ∀ m < n, p.Repeats (attempt m)) :
    (n : ℕ∞) + 1 ≤ p.settledAt attempt := by
  refine le_iInf₂ fun m hm => ?_
  have hle : n ≤ m := Nat.le_of_not_lt fun hlt => hm (h m hlt)
  exact add_le_add_left (Nat.cast_le.mpr hle) 1

theorem settledAt_eq {n : Nat} (h : ¬p.Repeats (attempt n))
    (hbefore : ∀ m < n, p.Repeats (attempt m)) : p.settledAt attempt = (n : ℕ∞) + 1 :=
  le_antisymm (iInf₂_le n h) (le_settledAt hbefore)

theorem lt_settledAt {n : Nat} (h : ∀ m < n, p.Repeats (attempt m)) :
    (n : ℕ∞) < p.settledAt attempt :=
  lt_of_lt_of_le (by exact_mod_cast Nat.lt_succ_self n) (le_settledAt h)

/-- Among the first outcomes one ends the attempts, or each of them is followed by another attempt. -/
theorem exists_first_or_forall (p : RetryPolicy) (attempt : Nat → Except Fault α) (bound : Nat) :
    (∃ n < bound, ¬p.Repeats (attempt n) ∧ ∀ m < n, p.Repeats (attempt m)) ∨
      ∀ n < bound, p.Repeats (attempt n) := by
  classical
  by_cases h : ∃ n < bound, ¬p.Repeats (attempt n)
  · have hexists : ∃ n, n < bound ∧ ¬p.Repeats (attempt n) := h
    obtain ⟨hlt, hnot⟩ := Nat.find_spec hexists
    refine .inl ⟨Nat.find hexists, hlt, hnot, fun m hm => ?_⟩
    by_contra hrepeats
    exact Nat.find_min hexists hm ⟨by omega, hrepeats⟩
  · refine .inr fun n hn => ?_
    by_contra hrepeats
    exact h ⟨n, hn, hrepeats⟩

/-- How a run goes: how many attempts it makes and which of them decides its result, with one pause and
one warning between two attempts, and one error at the end just if the attempts are used up. -/
structure Follows (p : RetryPolicy) (attempt : Nat → Except Fault α) (run : RetryRun α) : Prop where
  attempts_eq : (run.attempts : ℕ∞) = min (p.settledAt attempt) p.maxAttempts.toNat
  settled_eq : ∀ n : Nat, p.settledAt attempt = n + 1 → n < p.maxAttempts.toNat →
    run.result = settled (attempt n)
  exhausted_eq : (p.maxAttempts.toNat : ℕ∞) < p.settledAt attempt →
    ∃ f, attempt (p.maxAttempts.toNat - 1) = .error f ∧ p.repeats f.kind = true ∧
      run.result = .error (.fault f)
  pauses_eq : run.pauses.map .ok = (List.range (run.attempts - 1)).map p.pause?
  notices_eq : ∃ fault : Nat → Fault,
    (∀ n, n + 1 < run.attempts → attempt n = .error (fault n)) ∧
    ((p.maxAttempts.toNat : ℕ∞) < p.settledAt attempt →
      attempt (p.maxAttempts.toNat - 1) = .error (fault (p.maxAttempts.toNat - 1))) ∧
    run.notices = (List.range (run.attempts - 1)).map (fun n => p.repeating (n + 1) (fault n)) ++
      if (p.maxAttempts.toNat : ℕ∞) < p.settledAt attempt then
        [p.exhausted (fault (p.maxAttempts.toNat - 1))] else []

section Follows

variable {pause : Nat → Pause} {fault : Nat → Fault} {k : Nat}
  {result : Except Failure (Option α)} {notices : List Notice}

/-- A run is made of the attempts that are repeated and the one that ends it. -/
theorem run_of_repeated (hk : k < p.maxAttempts.toNat) (hpause : ∀ n ≤ k, p.pause? n = .ok (pause n))
    (hfault : ∀ n < k, attempt n = .error (fault n) ∧ p.repeats (fault n).kind = true)
    (hlast : p.attempts attempt (p.maxAttempts.toNat - k) k (pause k) = .ended result notices) :
    p.run attempt =
      { result
        attempts := k + 1
        pauses := (List.range k).map pause
        notices := (List.range k).map (fun n => p.repeating (n + 1) (fault n)) ++ notices } := by
  have hdelay : p.delay = pause 0 := Except.ok.inj (hpause 0 k.zero_le)
  obtain ⟨left, hleft⟩ : ∃ left, p.maxAttempts.toNat = left + k + 1 :=
    ⟨p.maxAttempts.toNat - (k + 1), by omega⟩
  have hbehind : p.maxAttempts.toNat - k = left + 1 := by omega
  rw [hbehind] at hlast
  rw [run, hleft, hdelay, List.range_eq_range']
  refine attempts_of_repeated (fun n hn => hpause n (by omega)) (fun n _ hn => hfault n (by omega)) ?_
  rwa [Nat.zero_add]

theorem pauses_eq_of_pause? (hpause : ∀ n ≤ k, p.pause? n = .ok (pause n)) :
    ((List.range k).map pause).map .ok = (List.range k).map p.pause? := by
  rw [List.map_map]
  refine List.map_congr_left fun n hn => ?_
  exact (hpause n (List.mem_range.mp hn).le).symm

/-- A run whose attempt after `k` others needs no further one. -/
theorem follows_of_settled (hk : k < p.maxAttempts.toNat)
    (hpause : ∀ n ≤ k, p.pause? n = .ok (pause n)) (hrepeats : ∀ n < k, p.Repeats (attempt n))
    (hsettled : ¬p.Repeats (attempt k)) : p.Follows attempt (p.run attempt) := by
  have hposition := settledAt_eq hsettled hrepeats
  have hleast : (k : ℕ∞) + 1 ≤ p.maxAttempts.toNat := by exact_mod_cast hk
  choose! fault hfault using hrepeats
  obtain ⟨left, hleft⟩ : ∃ left, p.maxAttempts.toNat - k = left + 1 :=
    ⟨p.maxAttempts.toNat - k - 1, by omega⟩
  have hlast : p.attempts attempt (p.maxAttempts.toNat - k) k (pause k) =
      .ended (settled (attempt k)) [] := by
    rw [hleft]
    exact attempts_of_not_repeats hsettled
  rw [run_of_repeated hk hpause hfault hlast]
  refine ⟨?_, fun n hn _ => ?_, fun hlt => ?_, pauses_eq_of_pause? hpause,
    fault, fun n hn => (hfault n (by simpa using hn)).1, fun hlt => ?_, ?_⟩
  · rw [hposition, min_eq_left hleast]
    rfl
  · have hcast : ((k + 1 : ℕ) : ℕ∞) = ((n + 1 : ℕ) : ℕ∞) := hposition.symm.trans hn
    have hkn : k + 1 = n + 1 := Nat.cast_injective hcast
    rw [Nat.succ.inj hkn]
  · exact absurd (hposition ▸ hlt) (not_lt.mpr hleast)
  · exact absurd (hposition ▸ hlt) (not_lt.mpr hleast)
  · rw [if_neg (hposition ▸ not_lt.mpr hleast)]
    rfl

/-- A run whose attempts are used up. -/
theorem follows_of_exhausted (hk : p.maxAttempts.toNat = k + 1)
    (hpause : ∀ n ≤ k, p.pause? n = .ok (pause n))
    (hrepeats : ∀ n < p.maxAttempts.toNat, p.Repeats (attempt n)) :
    p.Follows attempt (p.run attempt) := by
  have hposition := lt_settledAt hrepeats
  choose! fault hfault using hrepeats
  obtain ⟨hattempt, hrepeated⟩ := hfault k (by omega)
  have hlast : p.attempts attempt (p.maxAttempts.toNat - k) k (pause k) =
      .ended (.error (.fault (fault k))) [p.exhausted (fault k)] := by
    rw [show p.maxAttempts.toNat - k = 1 by omega]
    exact attempts_one hattempt hrepeated
  have hbehind : p.maxAttempts.toNat - 1 = k := by omega
  rw [run_of_repeated (by omega) hpause (fun n hn => hfault n (by omega)) hlast]
  refine ⟨?_, fun n hn hlt => ?_, fun _ => ⟨fault k, by rwa [hbehind], hrepeated, rfl⟩,
    pauses_eq_of_pause? hpause, fault, fun n hn => (hfault n ?_).1,
    fun _ => by rwa [hbehind], ?_⟩
  · rw [min_eq_right hposition.le, hk]
  · have hle : (p.maxAttempts.toNat : ℕ∞) < n + 1 := hn ▸ hposition
    have hle' : p.maxAttempts.toNat < n + 1 := by exact_mod_cast hle
    omega
  · have hn' : n + 1 < k + 1 := hn
    omega
  · rw [if_pos hposition, hbehind]
    rfl

/-- Pauses behind the first one are needed only where a first attempt is repeated. -/
theorem follows_of_pause? (hmost : 1 ≤ p.maxAttempts)
    (h : 2 ≤ p.maxAttempts → p.Repeats (attempt 0) → ∀ n, ∃ pause, p.pause? n = .ok pause) :
    p.Follows attempt (p.run attempt) := by
  have hpauses : ∀ k < p.maxAttempts.toNat, (∀ n < k, p.Repeats (attempt n)) →
      ∃ pause : Nat → Pause, ∀ n ≤ k, p.pause? n = .ok (pause n) := by
    intro k hk hrepeats
    cases k with
    | zero =>
        refine ⟨fun _ => p.delay, fun n hn => ?_⟩
        rw [Nat.le_zero.mp hn]
        rfl
    | succ k =>
        choose pause hpause using h (by omega) (hrepeats 0 k.succ_pos)
        exact ⟨pause, fun n _ => hpause n⟩
  rcases exists_first_or_forall p attempt p.maxAttempts.toNat with ⟨k, hk, hsettled, hrepeats⟩ | hall
  · obtain ⟨pause, hpause⟩ := hpauses k hk hrepeats
    exact follows_of_settled hk hpause hrepeats hsettled
  · obtain ⟨k, hk⟩ : ∃ k, p.maxAttempts.toNat = k + 1 := ⟨p.maxAttempts.toNat - 1, by omega⟩
    obtain ⟨pause, hpause⟩ := hpauses k (by omega) fun n hn => hall n (by omega)
    exact follows_of_exhausted hk hpause hall

/-- A delay that cannot be multiplied by the factor is the only pause. -/
theorem run_of_not_paces (hpaces : ¬p.Paces) (htwo : 2 ≤ p.maxAttempts)
    (hf : attempt 0 = .error f) (hrepeats : p.repeats f.kind = true) :
    p.run attempt =
      { result := .error (.overflow "int too large to convert to float")
        attempts := 1
        pauses := [p.delay]
        notices := [p.repeating 1 f] } := by
  obtain ⟨left, hleft⟩ : ∃ left, p.maxAttempts.toNat = left + 2 :=
    ⟨p.maxAttempts.toNat - 2, by omega⟩
  rw [run, hleft]
  exact attempts_stopped hf hrepeats (times_of_not_paces hpaces)

end Follows

/-! ## The run of a policy -/

/-- Attempts are made up to the first outcome that is not worth another one, and no more than the policy
has. The last one decides the result. Whole pauses grow as powers, and others by one rounded product
after the other. Only where the first of these products leaves the range of floating point there is no
second attempt. -/
theorem run_follows (p : RetryPolicy) (hmost : 1 ≤ p.maxAttempts) (attempt : Nat → Except Fault α) :
    (p.Paces ∨ p.maxAttempts = 1 ∨ ¬p.Repeats (attempt 0) → p.Follows attempt (p.run attempt)) ∧
      (∀ f, ¬p.Paces → 2 ≤ p.maxAttempts → attempt 0 = .error f → p.repeats f.kind = true →
        p.run attempt =
          { result := .error (.overflow "int too large to convert to float")
            attempts := 1
            pauses := [p.delay]
            notices := [p.repeating 1 f] }) ∧
      (∀ delay factor : Int, p.delay = .whole delay → p.factor = .whole factor →
        ∀ n, p.pause? n = .ok (.whole (delay * factor ^ n))) ∧
      ∀ delay factor : Double, ¬p.delay.BothWhole p.factor → p.delay.seconds? = some delay →
        p.factor.seconds? = some factor →
        ∀ n, ∃ pause, p.pause? n = .ok pause ∧ pause.seconds? = some ((·.mul factor)^[n] delay) := by
  refine ⟨fun h => ?_, fun f => run_of_not_paces, fun _ _ => pause?_whole,
    fun _ _ hfraction hdelay hfactor n => ?_⟩
  · refine follows_of_pause? hmost fun htwo hfirst => exists_pause? ?_
    rcases h with hpaces | hone | hsettled
    · exact hpaces
    · omega
    · exact absurd hfirst hsettled
  · obtain ⟨pause, hpause, -, hseconds⟩ := exists_pause?_seconds hfraction hdelay hfactor n
    exact ⟨pause, hpause, hseconds⟩

/-- A server that is busy at first. -/
def busy : Fault := ⟨.driver .sqlite .operational, "database is locked"⟩

/-- The third attempt succeeds. -/
def busyTwice (n : Nat) : Except Fault Unit := if n < 2 then .error busy else .ok ()

/-- The pauses of a usual policy between three attempts are of one second and of one and a half. -/
theorem run_follows_busyTwice :
    let p : RetryPolicy := { factor := Connection.usualFactor }
    1 ≤ p.maxAttempts ∧ p.Paces ∧ ¬p.delay.BothWhole p.factor ∧
      p.Follows busyTwice (p.run busyTwice) ∧
      (p.run busyTwice).result = .ok (some ()) ∧
      (p.run busyTwice).pauses = [.whole 1, Connection.usualFactor] ∧
      ∃ pause, p.pause? 1 = .ok pause ∧
        pause.seconds? = some ((Floating.ofFraction false 1 1).mul (.ofFraction false 3 2)) := by
  intro p
  have hmost : 1 ≤ p.maxAttempts := by decide
  have hdelay : p.delay.seconds? = some (.ofFraction false 1 1) := by decide +kernel
  have hfactor : p.factor.seconds? = some (.ofFraction false 3 2) := rfl
  have hpaces : p.Paces := .inr ⟨_, _, hdelay, hfactor⟩
  have hfraction : ¬p.delay.BothWhole p.factor := by
    rintro ⟨_, _, _, h⟩
    cases h
  have hbusy : ∀ n < 2, p.Repeats (busyTwice n) := fun n hn => ⟨busy, if_pos hn, rfl⟩
  have hthird : ¬p.Repeats (busyTwice 2) := by
    rintro ⟨f, h, -⟩
    cases h
  obtain ⟨hfollows, -, -, hseconds⟩ := run_follows p hmost busyTwice
  exact ⟨hmost, hpaces, hfraction, hfollows (.inl hpaces),
    (hfollows (.inl hpaces)).settled_eq 2 (settledAt_eq hthird hbusy) (by decide),
    by decide +kernel, hseconds _ _ hfraction hdelay hfactor 1⟩

/-- A tenth of a second that is tripled twice is rounded twice, and is not its product with nine; and
a whole number beyond the range of floating point ends the attempts, where another one would succeed. -/
theorem pauses_apart :
    (let tenth : Double := .ofFraction false 1 10
     let three : Double := .ofFraction false 3 1
     let p : RetryPolicy := { maxAttempts := 4, delay := .fraction tenth, factor := .fraction three }
     (p.run fun _ => (.error busy : Except Fault Unit)).pauses[2]? =
        some (.fraction ((tenth.mul three).mul three)) ∧
      (tenth.mul three).mul three ≠ tenth.mul (three.mul three)) ∧
    (let p : RetryPolicy := { delay := .whole (10 ^ 400), factor := Connection.usualFactor }
     p.settledAt busyTwice = 3 ∧ (p.run busyTwice).attempts = 1 ∧
      (p.run busyTwice).result = .error (.overflow "int too large to convert to float")) := by
  refine ⟨⟨by decide +kernel, by decide +kernel⟩, ?_, ?_⟩
  · refine settledAt_eq (n := 2) ?_ fun n hn => ⟨busy, if_pos hn, rfl⟩
    rintro ⟨f, h, -⟩
    cases h
  · rw [run_of_not_paces (f := busy) ?_ (by decide) rfl rfl]
    · exact ⟨rfl, rfl⟩
    · rintro (⟨_, _, _, h⟩ | ⟨_, _, h, _⟩)
      · cases h
      · have hnone : Pause.seconds? (.whole (10 ^ 400)) = none := by decide +kernel
        rw [hnone] at h
        cases h

end RetryPolicy

end RelationalMapper
