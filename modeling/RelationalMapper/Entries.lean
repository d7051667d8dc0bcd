/-!
Entries: values under names, in the order in which the names first came. Writing under a known name
keeps its place.
-/

namespace RelationalMapper

abbrev Entries (β : Type) := List (String × β)

namespace Entries

variable {β : Type}

def get? (entries : Entries β) (name : String) : Option β :=
  match entries with
  | [] => none
  | (n, b) :: rest => if n = name then some b else get? rest name

def has (entries : Entries β) (name : String) : Bool := (entries.get? name).isSome

def put (entries : Entries β) (name : String) (value : β) : Entries β :=
  match entries with
  | [] => [(name, value)]
  | (n, b) :: rest =>
    if n = name then (n, value) :: rest else (n, b) :: put rest name value

def names (entries : Entries β) : List String := entries.map (·.1)

def values (entries : Entries β) : List β := entries.map (·.2)

/-- Later values under a name win. -/
def ofPairs (pairs : List (String × β)) : Entries β :=
  pairs.foldl (fun entries (name, value) => put entries name value) []

/-- The first value under each name wins. -/
def ofFirst (pairs : List (String × β)) : Entries β :=
  pairs.foldl (fun entries (name, value) => if has entries name then entries
    else put entries name value) []

@[simp] theorem get?_nil (name : String) : get? ([] : Entries β) name = none := rfl

theorem get?_put_self (entries : Entries β) (name : String) (value : β) :
    (entries.put name value).get? name = some value := by
  induction entries with
  | nil => simp [put, get?]
  | cons e rest ih =>
    obtain ⟨n, b⟩ := e
    by_cases h : n = name <;> simp [put, get?, h, ih]

theorem get?_put_of_ne (entries : Entries β) {name other : String} (value : β)
    (h : other ≠ name) : (entries.put name value).get? other = entries.get? other := by
  induction entries with
  | nil => simp [put, get?, Ne.symm h]
  | cons e rest ih =>
    obtain ⟨n, b⟩ := e
    by_cases hn : n = name
    · subst hn; simp [put, get?, Ne.symm h]
    · rw [put, if_neg hn, get?, get?, ih]

end Entries

end RelationalMapper
