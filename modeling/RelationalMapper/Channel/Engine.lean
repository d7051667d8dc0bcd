import RelationalMapper.Channel.Address

/-!
Engines: what opens connections to an address. A registry keeps one engine for all requests with the
same options, however an engine was asked for first.
-/

namespace RelationalMapper

/-- A setting of an engine. -/
inductive EngineSetting where
  | value (v : Value)
  /-- A way of keeping connections, by its name. -/
  | pool (name : String)
  deriving DecidableEq, Inhabited

structure Engine where
  address : Address
  settings : Entries EngineSetting
  deriving DecidableEq, Inhabited

namespace Engine

/-- An engine does not echo its statements and keeps no connections, unless it is told to. -/
def defaults : Entries EngineSetting :=
  [("echo", .value (.scalar (.bool false))), ("poolclass", .pool "NullPool")]

def configured (address : Address) (settings : List (String × EngineSetting)) : Engine :=
  { address, settings := .ofPairs (defaults ++ settings) }

end Engine

/-- An engine that was made for some options; a disposed one is not used again. -/
structure EngineRecord where
  options : Options
  engine : Engine
  disposed : Bool := false
  deriving DecidableEq, Inhabited

/-- All engines in the order in which they were made. -/
abbrev EngineRegistry := List EngineRecord

namespace EngineRegistry

/-- Options are the same if their fields have the same literals. -/
def sameOptions (o p : Options) : Bool :=
  o.fields.map (·.2.literal) = p.fields.map (·.2.literal)

/-- The place of the engine in use for the options. -/
def find? (registry : EngineRegistry) (o : Options) : Option Nat :=
  registry.findIdx? fun r => sameOptions r.options o && !r.disposed

/-- The registry with an engine for the options, and the engine's place; a new engine takes the
settings. -/
def request (registry : EngineRegistry) (o : Options)
    (settings : List (String × EngineSetting)) : Except Failure (Nat × EngineRegistry) :=
  match registry.find? o with
  | some place => .ok (place, registry)
  | none => o.address.map fun address =>
    (registry.length, registry ++ [{ options := o, engine := .configured address settings }])

def dispose (registry : EngineRegistry) : EngineRegistry :=
  registry.map fun r => { r with disposed := true }

end EngineRegistry

end RelationalMapper
