/-!
Lineage: the order in which a class and its bases are searched. Each class comes before its bases,
and bases keep the order in which every class names them.
-/

namespace RelationalMapper.Lineage

variable {α : Type} [DecidableEq α]

/-- No order has the candidate behind its head. -/
def isFree (orders : List (List α)) (candidate : α) : Bool :=
  orders.all fun order => candidate ∉ order.drop 1

/-- The first head that no order has behind its own head. -/
def choose? (orders : List (List α)) : Option α :=
  (orders.filterMap List.head?).find? (isFree orders)

def advance (chosen : α) (order : List α) : List α :=
  if order.head? = some chosen then order.drop 1 else order

/-- Merges orders into one that keeps each of them, if there is one; every step takes at least one
element, so the elements bound the steps. -/
def merge? : (fuel : Nat) → List (List α) → Option (List α)
  | fuel, orders =>
    if orders.all List.isEmpty then some []
    else match fuel with
      | 0 => none
      | fuel + 1 => do
        let chosen ← choose? orders
        let rest ← merge? fuel (orders.map (advance chosen))
        some (chosen :: rest)

/-- The lineage of a class whose bases have the given lineages. -/
def ofBases? (self : α) (bases : List (List α)) : Option (List α) :=
  let orders := bases ++ [bases.filterMap List.head?]
  (merge? orders.flatten.length orders).map (self :: ·)

end RelationalMapper.Lineage
