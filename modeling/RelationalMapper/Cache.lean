import RelationalMapper.Entries
import RelationalMapper.Failure

/-!
Bounded caches: values under keys, of which the least recently used give way to new ones. Main
statement: a cache never holds more than its capacity.
-/

namespace RelationalMapper

/-- The entries of a cache from the least to the most recently used. -/
structure Cache (κ ν : Type) where
  capacity : Int
  entries : List (κ × ν) := []
  deriving Repr, Inhabited

namespace Cache

variable {κ ν : Type} [DecidableEq κ]

def keys (c : Cache κ ν) : List κ := c.entries.map (·.1)

def clear (c : Cache κ ν) : Cache κ ν := { c with entries := [] }

/-- The entries less the one under `key`. -/
def others (c : Cache κ ν) (key : κ) : List (κ × ν) := c.entries.filter (·.1 ≠ key)

/-- The value under a key with the cache in which that key is the last one used. -/
def use? (c : Cache κ ν) (key : κ) : Option (ν × Cache κ ν) :=
  (c.entries.lookup key).map fun value =>
    (value, { c with entries := c.others key ++ [(key, value)] })

/-- The last entries that leave one place free. -/
def recent (capacity : Nat) (entries : List (κ × ν)) : List (κ × ν) :=
  entries.drop (entries.length - (capacity - 1))

/-- The cache with one more value, if it can hold any. -/
def store (c : Cache κ ν) (key : κ) (value : ν) : Except Failure (Cache κ ν) :=
  if c.capacity < 1 then .error (.argument .valueTooLarge)
  else .ok { c with entries := recent c.capacity.toNat (c.others key) ++ [(key, value)] }

/-- The value under a key, made on a miss, and whether it was made. A value that is made but cannot
be stored is lost. -/
def getOrMake (c : Cache κ ν) (key : κ) (make : Except Failure ν) :
    Except Failure ν × Cache κ ν × Bool :=
  match c.use? key with
  | some (value, next) => (.ok value, next, false)
  | none =>
    match make with
    | .error e => (.error e, c, true)
    | .ok value =>
      match c.store key value with
      | .error e => (.error e, c, true)
      | .ok next => (.ok value, next, true)

omit [DecidableEq κ] in
theorem length_recent_le {capacity : Nat} (h : 0 < capacity) (entries : List (κ × ν)) :
    (recent capacity entries).length + 1 ≤ capacity := by
  simp only [recent, List.length_drop]
  omega

/-- What was stored fits. -/
theorem length_store_le {c next : Cache κ ν} {key : κ} {value : ν}
    (h : c.store key value = .ok next) : next.entries.length ≤ next.capacity.toNat := by
  unfold store at h
  split at h
  · cases h
  · rename_i hc
    cases h
    have hpos : 0 < c.capacity.toNat := by omega
    simpa using length_recent_le hpos (c.others key)

end Cache

/-- Caches by their names. -/
abbrev CacheShelf (κ ν : Type) := Entries (Cache κ ν)

namespace CacheShelf

variable {κ ν : Type} [DecidableEq κ]

/-- The capacity of a cache for which none is given. -/
def usualCapacity : Int := 128

/-- The cache of a name; only a new one takes the capacity. -/
def cache (shelf : CacheShelf κ ν) (name : String) (capacity : Int) : Cache κ ν :=
  (Entries.get? shelf name).getD { capacity }

/-- The shelf on which the cache of a name stands. -/
def opened (shelf : CacheShelf κ ν) (name : String) (capacity : Int) : CacheShelf κ ν :=
  Entries.put shelf name (shelf.cache name capacity)

/-- The value under a key of a named cache, made on a miss, and whether it was made. -/
def getOrMake (shelf : CacheShelf κ ν) (name : String) (capacity : Int) (key : κ)
    (make : Except Failure ν) : Except Failure ν × CacheShelf κ ν × Bool :=
  let (result, next, made) := (shelf.cache name capacity).getOrMake key make
  (result, Entries.put shelf name next, made)

def clear (shelf : CacheShelf κ ν) (name : String) : CacheShelf κ ν :=
  shelf.map fun (n, c) => (n, if n = name then c.clear else c)

def clearAll (shelf : CacheShelf κ ν) : CacheShelf κ ν := shelf.map fun (n, c) => (n, c.clear)

end CacheShelf

end RelationalMapper
