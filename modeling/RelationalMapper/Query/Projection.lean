import RelationalMapper.Query.Column

/-!
Projections: the parts of a result, in the order of its columns. A part belongs to the base table or
to another table of the query; what it is called is said with the part or afterwards.
-/

namespace RelationalMapper

inductive AggregateFunction where
  | sum
  | avg
  | count
  | min
  | max
  deriving Repr, DecidableEq, Inhabited

namespace AggregateFunction

def all : List AggregateFunction := [sum, avg, count, min, max]

def name : AggregateFunction → String
  | sum => "SUM"
  | avg => "AVG"
  | count => "COUNT"
  | min => "MIN"
  | max => "MAX"

end AggregateFunction

inductive SelectionPart where
  | column (property : String) (entity : Option EntityClass) (aliasName : Option String)
  | star (entity : Option EntityClass)
  /-- Over all rows, if no property is given. -/
  | aggregate (function : AggregateFunction) (distinct : Bool) (property : Option String)
      (entity : Option EntityClass) (aliasName : Option String)
  /-- A text that stands in the statement as it is. -/
  | computed (expression : String)
  deriving DecidableEq, Inhabited

abbrev Projection := List SelectionPart

namespace SelectionPart

def named (expression aliasName : String) : String := expression ++ " AS " ++ aliasName

/-- A computed part under a name. -/
def computedAs (expression : String) (aliasName : Option String) : SelectionPart :=
  computed (aliasName.elim expression (named expression))

/-- The part under another name; a star has none. -/
def renamed? (aliasName : String) : SelectionPart → Option SelectionPart
  | column property entity _ => some (column property entity (some aliasName))
  | star _ => none
  | aggregate function distinct property entity _ =>
    some (aggregate function distinct property entity (some aliasName))
  | computed expression => some (computed (named expression aliasName))

/-- Names the last part that can have a name, which comes first here. -/
def renameFirst? (aliasName : String) : Projection → Option Projection
  | [] => none
  | part :: rest =>
    match part.renamed? aliasName with
    | some renamed => some (renamed :: rest)
    | none => (renameFirst? aliasName rest).map (part :: ·)

end SelectionPart

namespace Projection

/-- What is said one after the other about a projection. -/
inductive Step where
  | part (p : SelectionPart)
  | rename (aliasName : String)
  deriving DecidableEq, Inhabited

def step (p : Projection) : Step → Except Failure Projection
  | .part part => .ok (p ++ [part])
  | .rename aliasName =>
    match SelectionPart.renameFirst? aliasName p.reverse with
    | some renamed => .ok renamed.reverse
    | none => .error (.misuse .aliasOfNothing)

def ofSteps (steps : List Step) : Except Failure Projection := steps.foldlM step []

end Projection

end RelationalMapper
