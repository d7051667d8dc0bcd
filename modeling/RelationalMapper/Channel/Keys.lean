import RelationalMapper.Channel.Statement
import RelationalMapper.Value.Integer

/-!
Generated keys: the keys that the database gave to the rows of an insertion, in the order of the
rows. A driver tells the first of them, or the last, or has to be asked for the last; where the
insertion itself gives the keys back, there is nothing to recover.
-/

namespace RelationalMapper

namespace Keys

/-- `count` consecutive integers from `first` on. -/
def consecutive (first count : Int) : List Value :=
  (List.range count.toNat).map fun (i : Nat) => Value.int (first + i)

/-- `count` consecutive integers up to `last`. -/
def endingAt (last count : Int) : List Value := consecutive (last - count + 1) count

/-- Why no keys can be counted from a remembered key of this type. -/
def uncountable (operator : String) (t : NativeType) : Failure :=
  let label := Integer.qualifiedLabel t
  .wrongType <|
    if t.derivesFrom .float || t.derivesFrom .decimal then
      Text.quoted label ++ " object cannot be interpreted as an integer"
    else if operator = "+" ∧ (t.derivesFrom .text ∨ t = .list) then
      "can only concatenate " ++ label ++ " (not \"int\") to " ++ label
    else
      "unsupported operand type(s) for " ++ operator ++ ": " ++ Text.quoted label ++ " and 'int'"

/-- The integer that a driver remembers as a key. -/
def remembered (operator : String) (v : Value) : Except Failure Int :=
  match v with
  | .list _ => .error (uncountable operator .list)
  | .scalar s =>
    match s.unwrapped.plain with
    | .int n => .ok n
    | .bool b => .ok (if b then 1 else 0)
    | _ => .error (uncountable operator s.type)

/-- `count` keys from the remembered one on. -/
def fromFirst (first : Value) (count : Int) : Except Failure (List Value) :=
  if first = .null ∨ count ≤ 0 then .ok []
  else (remembered "+" first).map (consecutive · count)

/-- `count` keys up to the remembered one. -/
def upToLast (last : Value) (count : Int) : Except Failure (List Value) :=
  if last = .null ∨ count ≤ 0 then .ok []
  else (remembered "-" last).map (endingAt · count)

/-- Asks for the last key that was made on the connection. -/
def lastKeyQuery : String := "SELECT CAST(@@IDENTITY AS BIGINT) AS id_col"

/-- The integer in the first column of a row; a null there is no key. -/
def keyIn (row : List Value) : Except Failure (Option Int) :=
  match row with
  | [] => .error .shortRow
  | value :: _ => if value = .null then .ok none else value.toInteger.map some

/-- The last key that was made, asked for through the open cursor. -/
def lastKey : Action Channel (Option Int) := do
  let answer ← Channel.onDriver (Driver.send (.execute lastKeyQuery none))
  Channel.change fun s => { s with cursor := some answer }
  Channel.onDriver (Driver.fetch .fetchOne answer)
  match answer.firstRow with
  | none => return none
  | some row => Action.ofExcept (keyIn row)

end Keys

namespace Channel

open Keys

/-- The keys of `count` rows that the statement inserted through a cursor. -/
def keysOf (answer : Response) (count : Int) : Action Channel (List Value) := do
  match (← get).connection.dialect with
  | .postgres => return []
  | .mySql => Action.ofExcept (fromFirst answer.lastRowId count)
  | .sqlite => Action.ofExcept (upToLast answer.lastRowId count)
  | .sqlServer =>
    if count ≤ 0 then return []
    return (← lastKey).elim [] (endingAt · count)

/-- The keys of the rows that the statement inserted last. -/
def generatedKeys : Action Channel (List Value) := do
  let s := (← get).statement
  match s.cursor with
  | none => return []
  | some answer =>
    try keysOf answer s.rowCount catch cause => throw (s.failed cause)

end Channel

end RelationalMapper
