import RelationalMapper.Failure
import RelationalMapper.Notice

/-!
Retrying: a connection that cannot be made is attempted again after a pause, and the pauses grow by
a constant factor. A run is the list of its attempts, pauses and notices beside its result.
-/

namespace RelationalMapper

open Number

/-- A length of time in seconds; whole lengths stay whole as long as only whole ones are
multiplied. -/
inductive Pause where
  | whole (seconds : Int)
  | fraction (seconds : Double)
  deriving DecidableEq, Inhabited

namespace Pause

/-- The length in floating-point seconds, if it is within their range. -/
def seconds? : Pause → Option Double
  | whole n => Floating.ofInt? n
  | fraction x => some x

def times (a b : Pause) : Except Failure Pause :=
  match a, b with
  | whole m, whole n => .ok (whole (m * n))
  | a, b =>
    match a.seconds?, b.seconds? with
    | some x, some y => .ok (fraction (x.mul y))
    | _, _ => .error (.overflow "int too large to convert to float")

end Pause

structure RetryPolicy where
  maxAttempts : Int := 3
  delay : Pause := .whole 1
  factor : Pause
  /-- The faults after which an attempt is repeated. -/
  repeats : FaultKind → Bool := FaultKind.isConnection

namespace RetryPolicy

def exhausted (p : RetryPolicy) (f : Fault) : Notice :=
  ⟨.error, "Maximum retries (" ++ intText p.maxAttempts ++ ") exceeded: " ++ f.message⟩

def repeating (p : RetryPolicy) (attempt : Nat) (f : Fault) : Notice :=
  ⟨.warning, "Connection error (attempt " ++ natText attempt ++ "/" ++ intText p.maxAttempts
    ++ "): " ++ f.message⟩

end RetryPolicy

/-- What a run of attempts leaves; no attempt at all gives no result. -/
structure RetryRun (α : Type) where
  result : Except Failure (Option α)
  attempts : Nat
  pauses : List Pause
  notices : List Notice

namespace RetryRun

/-- A run that ends with its first attempt. -/
def ended {α : Type} (result : Except Failure (Option α)) (notices : List Notice) : RetryRun α :=
  { result, attempts := 1, pauses := [], notices }

/-- The run with one more failed attempt and the pause after it in front. -/
def after {α : Type} (pause : Pause) (notice : Notice) (rest : RetryRun α) : RetryRun α :=
  { rest with
    attempts := rest.attempts + 1
    pauses := pause :: rest.pauses
    notices := notice :: rest.notices }

end RetryRun

namespace RetryPolicy

/-- At most `left` attempts, of which the next one is `attempt`; `delay` is the pause after it. -/
def attempts {α : Type} (p : RetryPolicy) (attempt : Nat → Except Fault α) :
    (left : Nat) → (number : Nat) → (delay : Pause) → RetryRun α
  | 0, _, _ => { result := .ok none, attempts := 0, pauses := [], notices := [] }
  | left + 1, number, delay =>
    match attempt number with
    | .ok a => .ended (.ok (some a)) []
    | .error f =>
      if !p.repeats f.kind then .ended (.error (.fault f)) []
      else if left = 0 then .ended (.error (.fault f)) [p.exhausted f]
      else
        let notice := p.repeating (number + 1) f
        match delay.times p.factor with
        | .ok next => .after delay notice (p.attempts attempt left (number + 1) next)
        | .error e => .after delay notice
            { result := .error e, attempts := 0, pauses := [], notices := [] }

/-- Attempts until one succeeds, fails for good, or is the last one; `attempt n` is the outcome of
the attempt after `n` others. -/
def run {α : Type} (p : RetryPolicy) (attempt : Nat → Except Fault α) : RetryRun α :=
  p.attempts attempt p.maxAttempts.toNat 0 p.delay

end RetryPolicy

end RelationalMapper
