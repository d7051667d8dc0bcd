import RelationalMapper.Channel.Connection
import RelationalMapper.Channel.Engine
import RelationalMapper.Channel.Retry

/-!
Opening connections: the dialect of a connection is the stated one, the one that its options name,
or the one that it can be recognised by. A connection that an engine opens may take several attempts.
-/

namespace RelationalMapper.Connection

/-- The dialect of a connection. -/
def dialectFor (stated : Option String) (options : Option Options) (trace : Dialect.Trace) :
    Except Failure Dialect :=
  match stated, options with
  | some name, _ => Dialect.recognize (some name)
  | none, some o => do Dialect.recognize (some (← o.driverName))
  | none, none => Dialect.detect trace

/-- A connection to a driver. -/
def «open» (stated : Option String) (options : Option Options) (trace : Dialect.Trace)
    (pooled : Bool) : Except Failure Connection :=
  (dialectFor stated options trace).map fun dialect =>
    { dialect, maxParams := options.bind (·.limit), pooled }

/-- One pause is half as long again as the one before it. -/
def usualFactor : Pause := .fraction (Number.Floating.ofFraction false 3 2)

/-- How often an engine is asked for a connection. -/
def openingPolicy (o : Options) : RetryPolicy :=
  if o.retries.isFalsy then { maxAttempts := 1, factor := usualFactor, repeats := fun _ => false }
  else { factor := usualFactor }

/-- A connection that an engine opens; `attempt n` is the outcome of the attempt after `n` others. -/
def connect (o : Options) (attempt : Nat → Except Fault Unit) : Except Failure Connection := do
  let run := (openingPolicy o).run attempt
  let _ ← run.result
  let c ← «open» none (some o) (.named "") false
  let driver : Driver := { trace := List.replicate run.attempts .connect }
  return { c with driver, notices := run.notices }

end RelationalMapper.Connection
