import RelationalMapper.Dialect.Page
import RelationalMapper.Query.Column

/-!
Conditions: tests between connectives and parentheses, kept as the row of pieces that they are
written as. Two tests that nothing connects are connected by AND.
-/

namespace RelationalMapper

/-- A piece of a condition whose tests are of type `τ`. -/
inductive Piece (τ : Type) where
  | test (t : τ)
  | and
  | or
  | opening
  | closing
  deriving Repr, DecidableEq, Inhabited

namespace Piece

variable {τ : Type}

def text (render : τ → String) : Piece τ → String
  | test t => render t
  | and => " AND "
  | or => " OR "
  | opening => "("
  | closing => ")"

def test? : Piece τ → Option τ
  | test t => some t
  | _ => none

end Piece

abbrev Condition (τ : Type) := List (Piece τ)

namespace Condition

variable {τ : Type}

/-- A test may not stand directly behind what the condition ends with. -/
def needsAnd (c : Condition τ) : Bool :=
  match c.getLast? with
  | some (.test _) | some .closing => true
  | _ => false

/-- The condition with AND at its end, where a test needs it. -/
def connected (c : Condition τ) : Condition τ := if c.needsAnd then c ++ [.and] else c

def addTest (c : Condition τ) (t : τ) : Condition τ := c.connected ++ [.test t]

def tests (c : Condition τ) : List τ := c.filterMap Piece.test?

def text (render : τ → String) (c : Condition τ) : String :=
  Text.joined "" (c.map (Piece.text render))

end Condition

inductive Comparison where
  | equal
  | notEqual
  | greater
  | greaterOrEqual
  | less
  | lessOrEqual
  | like
  deriving Repr, DecidableEq, Inhabited

namespace Comparison

def text : Comparison → String
  | equal => "="
  | notEqual => "<>"
  | greater => ">"
  | greaterOrEqual => ">="
  | less => "<"
  | lessOrEqual => "<="
  | like => "LIKE"

end Comparison

/-- A test of one column. -/
inductive Test where
  | compare (column : ColumnRef) (op : Comparison) (value : Value)
  | isNull (column : ColumnRef)
  | isNotNull (column : ColumnRef)
  /-- A comparison with null, which no row passes. -/
  | compareNull (column : ColumnRef) (op : Comparison)
  | among (column : ColumnRef) (values : List Value)
  deriving DecidableEq, Inhabited

namespace Test

/-- The test for a comparison; nothing is equal to null, so that such a test asks for null itself. -/
def comparison (column : ColumnRef) (op : Comparison) (value : Value) : Test :=
  if value = .null then
    match op with
    | .equal => isNull column
    | .notEqual => isNotNull column
    | _ => compareNull column op
  else compare column op value

/-- A subquery without rows. -/
def noRows : String := "SELECT 1 WHERE 1=0"

def text (d : Dialect) : Test → String
  | compare column op _ => d.columnText column ++ " " ++ op.text ++ " " ++ Sql.questionMark
  | isNull column => d.columnText column ++ " IS NULL"
  | isNotNull column => d.columnText column ++ " IS NOT NULL"
  | compareNull column op => d.columnText column ++ " " ++ op.text ++ " NULL"
  | among column values =>
    d.columnText column ++ " IN ("
      ++ (if values = [] then noRows else Sql.markerList values.length) ++ ")"

/-- What the marks of the test stand for. -/
def params : Test → List Value
  | compare _ _ value => [value]
  | among _ values => values
  | _ => []

end Test

/-- A comparison of the columns of two tables. -/
structure ColumnTest where
  left : ColumnRef
  op : Comparison
  right : ColumnRef
  deriving Repr, DecidableEq, Inhabited

def ColumnTest.text (d : Dialect) (t : ColumnTest) : String :=
  d.columnText t.left ++ " " ++ t.op.text ++ " " ++ d.columnText t.right

namespace Condition

/-- What the marks of the condition stand for. -/
def params (c : Condition Test) : List Value := c.tests.flatMap Test.params

end Condition

/-- The elements of a value that is a collection; what counts as nothing has none. -/
def Value.elements (v : Value) : Except Failure (List Value) :=
  if v.isFalsy then .ok []
  else match v with
    | .list items => .ok items
    | .scalar s =>
      match s.plain with
      | .text t => .ok (t.toList.map fun c => .text (String.singleton c))
      | .bytes b | .byteArray b => .ok (b.map fun x => .int x.toNat)
      | _ => .error (.wrongType "a single value has no elements")

end RelationalMapper
