import RelationalMapper.Value.Basic

/-!
Hints: what a class declares about the type of a field. A hint may offer alternatives, of which the
null type makes the field optional, and may carry markers that say how the field is stored. Main
definition: `Hint.native`, the type that is left when markers and optionality are taken away.
-/

namespace RelationalMapper

/-- What is said about a column; an empty text or a zero leaves a property open. -/
structure ColumnTraits where
  nullable : Bool := true
  type : String := ""
  length : Int := 0
  precision : Int := 0
  scale : Int := 0
  default : Value := .null
  deriving DecidableEq, Inhabited

/-- How a field is stored. -/
structure ColumnMarker extends ColumnTraits where
  name : String := ""
  ignored : Bool := false
  length := 255
  deriving DecidableEq, Inhabited

structure KeyMarker where
  name : String := ""
  auto : Bool := true
  deriving Repr, DecidableEq, Inhabited

inductive Marker where
  | key (marker : KeyMarker)
  | column (marker : ColumnMarker)
  | notMapped
  | foreign (text : String)
  deriving DecidableEq, Inhabited

inductive Hint where
  | type (t : NativeType)
  | annotated (hint : Hint) (markers : List Marker)
  | either (first second : Hint)
  | listOf (item : Hint)
  | classVariable (hint : Hint)
  | anyClassVariable
  | initVariable (hint : Hint)
  | named (name : String)
  deriving DecidableEq, Inhabited

namespace Hint

/-- The alternatives of a hint, from left to right. -/
def members : Hint → List Hint
  | either a b => a.members ++ b.members
  | h => [h]

def withoutRepeats : List Hint → List Hint
  | [] => []
  | h :: rest => h :: (withoutRepeats rest).filter (· ≠ h)

/-- The hint that offers the alternatives of all the given ones, each once. -/
def union (hints : List Hint) : Hint :=
  match withoutRepeats (hints.flatMap members) with
  | [] => .type .null
  | h :: rest => rest.foldl either h

def optional (h : Hint) : Hint := union [h, .type .null]

/-- Markers of nested annotations form one list. -/
def annotate (h : Hint) (markers : List Marker) : Hint :=
  match h with
  | annotated inner earlier => annotated inner (earlier ++ markers)
  | h => annotated h markers

/-- The markers that a hint carries on its outside. -/
def markers : Hint → List Marker
  | annotated _ ms => ms
  | _ => []

mutual

/-- The hint without markers, and without the null type where one other alternative is left. -/
def native : Hint → Hint
  | annotated h _ => h.native
  | either a b =>
    match a.alternatives ++ b.alternatives with
    | [h] => h
    | _ => either a b
  | h => h

/-- The native forms of the alternatives other than the null type. -/
def alternatives : Hint → List Hint
  | either a b => a.alternatives ++ b.alternatives
  | type .null => []
  | annotated h _ => [h.native]
  | h => [h]

end

/-- The type that a hint is, if it is nothing but one. -/
def type? : Hint → Option NativeType
  | type t => some t
  | _ => none

/-- The native type, if what is left is one. -/
def nativeType? (h : Hint) : Option NativeType := h.native.type?

/-- Types that a hint may refer to by name. -/
def knownNames : List (String × NativeType) := [
  ("int", .int), ("str", .text), ("float", .float), ("bool", .bool), ("bytes", .bytes),
  ("bytearray", .byteArray), ("list", .list), ("dict", .dictionary), ("object", .object)]

/-- Replaces each name by the type it refers to, or gives the first name that refers to none. What
an initialisation variable holds is not looked at. -/
def evaluated : Hint → Except String Hint
  | named name => (knownNames.lookup name).elim (.error name) fun t => .ok (type t)
  | annotated h ms => return annotate (← h.evaluated) ms
  | either a b => return union [← a.evaluated, ← b.evaluated]
  | listOf h => return listOf (← h.evaluated)
  | classVariable h => return classVariable (← h.evaluated)
  | h => .ok h

/-- A field of every instance, and not a variable of the class or of its initialisation. -/
def isInstanceField : Hint → Bool
  | classVariable _ | anyClassVariable | initVariable _ => false
  | _ => true

end Hint

end RelationalMapper
