import RelationalMapper.Entries
import RelationalMapper.Failure
import RelationalMapper.Mapping.Hint
import RelationalMapper.Mapping.Lineage

/-!
Entity classes: named classes with declared fields, class-level defaults and bases. A class sees the
fields of all its bases, a field that is declared again keeping its place.
-/

namespace RelationalMapper

/-- What happens when an instance is made without arguments. -/
inductive Construction where
  | plain
  | needsArguments
  | fails
  deriving Repr, DecidableEq, Inhabited

/-- What one class declares itself. -/
structure ClassBody where
  name : String
  fields : Entries Hint
  defaults : Entries Value
  construction : Option Construction
  deriving DecidableEq, Inhabited

/-- A class; `marker` is the table of its own entity marker, which may be left open. -/
structure EntityClass where
  name : String
  marker : Option String
  lineage : List ClassBody
  deriving DecidableEq, Inhabited

namespace EntityClass

/-- A class with the given bases, unless their lineages contradict each other. -/
def derive? (body : ClassBody) (marker : Option String) (bases : List EntityClass) :
    Option EntityClass :=
  (Lineage.ofBases? body (bases.map (·.lineage))).map fun lineage =>
    { name := body.name, marker, lineage }

/-- The declarations of the class and its bases, from the root of the lineage down. -/
def declarations (c : EntityClass) : List (String × Hint) :=
  c.lineage.reverse.flatMap (·.fields)

/-- Declarations with every name in their hints replaced. -/
def evaluatedDeclarations (c : EntityClass) : Except Failure (List (String × Hint)) :=
  c.declarations.mapM fun (name, hint) =>
    match hint.evaluated with
    | .ok h => .ok (name, h)
    | .error unknown => .error (.misconfiguration (.undefinedName c.name unknown))

/-- The fields of an instance, with the hint that was declared last. -/
def fields (c : EntityClass) : Except Failure (Entries Hint) := do
  let all := Entries.ofPairs (← c.evaluatedDeclarations)
  return all.filter (·.2.isInstanceField)

/-- The default of a field, from the nearest class in the lineage that has one. -/
def default? (c : EntityClass) (property : String) : Option Value :=
  c.lineage.findSome? (·.defaults.get? property)

def construction (c : EntityClass) : Construction :=
  (c.lineage.findSome? (·.construction)).getD .plain

end EntityClass

/-- An instance of a class with the attributes that were set on it. -/
structure Entity where
  type : EntityClass
  attributes : Entries Value
  deriving DecidableEq, Inhabited

namespace Entity

/-- The attribute, or the default of the class. -/
def attribute? (e : Entity) (property : String) : Option Value :=
  (e.attributes.get? property).or (e.type.default? property)

/-- An attribute that neither the instance nor its class has is read as null. -/
def get (e : Entity) (property : String) : Value := (e.attribute? property).getD .null

def set (e : Entity) (property : String) (value : Value) : Entity :=
  { e with attributes := e.attributes.put property value }

/-- The application's own refusal to construct an instance. -/
def refusal : Fault := ⟨.value, "constructor refused"⟩

/-- An empty instance; a class that needs arguments is instantiated without its constructor. -/
def blank (c : EntityClass) : Except Failure Entity :=
  match c.construction with
  | .fails => .error (.fault refusal)
  | _ => .ok { type := c, attributes := [] }

end Entity

end RelationalMapper
