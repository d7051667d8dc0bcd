import RelationalMapper.Dialect.Basic
import RelationalMapper.Value.Order

/-!
Pages: the clause that keeps a part of a result, given by how many rows are skipped and how many are
kept at most.
-/

namespace RelationalMapper

/-- Limit and offset as a caller gives them; null stands for none. -/
structure Window where
  limit : Value := .null
  offset : Value := .null
  deriving DecidableEq, Inhabited

namespace Window

/-- Neither a limit nor an offset. -/
def isOpen (w : Window) : Bool := w.limit = .null && w.offset = .null

/-- The numeral of the integer that a given value stands for. -/
def numeral? (v : Value) : Except Failure (Option String) :=
  if v = .null then .ok none else (v.toInteger >>= Integer.numeral).map some

end Window

namespace Dialect

def hasOrderBy (sql : String) : Bool := Text.contains "order by" (Text.lower sql)

def limitClause (n : String) : String := " LIMIT " ++ n

def offsetClause (n : String) : String := " OFFSET " ++ n

/-- LIMIT and OFFSET, each where it is given; an offset alone takes the limit that keeps all rows. -/
def limitOffset (d : Dialect) (w : Window) : Except Failure String := do
  let limit ← match ← Window.numeral? w.limit with
    | some n => pure (limitClause n)
    | none => pure (d.unboundedLimit?.elim "" limitClause)
  let offset ← match ← Window.numeral? w.offset with
    | some n => pure (offsetClause n)
    | none => pure ""
  return limit ++ offset

/-- OFFSET, which may not be left out, and FETCH. -/
def offsetFetch (w : Window) : Except Failure String := do
  let offset ← if w.offset.isFalsy then pure "0" else w.offset.toInteger >>= Integer.numeral
  let fetch ← match ← Window.numeral? w.limit with
    | some n => pure (" FETCH NEXT " ++ n ++ " ROWS ONLY")
    | none => pure ""
  return offsetClause offset ++ " ROWS" ++ fetch

/-- The statement with its page clause. An order that the caller gives is added to a statement that
has none; where a page clause needs an order, a constant one stands in. -/
def paginate (d : Dialect) (sql : String) (order : Option String) (w : Window) :
    Except Failure String :=
  if w.isOpen then .ok sql
  else
    let given := order.filter (· ≠ "")
    match d with
    | sqlServer => do
      let ordered := if hasOrderBy sql then sql
        else sql ++ " ORDER BY " ++ given.getD "(SELECT 1)"
      return ordered ++ (← offsetFetch w)
    | _ => do
      let ordered := match given with
        | some terms => if hasOrderBy sql then sql else sql ++ " ORDER BY " ++ terms
        | none => sql
      return ordered ++ (← d.limitOffset w)

end Dialect

end RelationalMapper
