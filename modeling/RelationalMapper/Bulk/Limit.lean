import RelationalMapper.Bulk.Chunk
import RelationalMapper.Failure

/-!
The parameter limit: how many parameters a statement may bind, and how many rows fit under it.
-/

namespace RelationalMapper

structure ParameterLimit where
  count : Nat
  positive : 0 < count
  deriving Repr, DecidableEq

namespace ParameterLimit

/-- What every supported database allows. -/
def usual : ParameterLimit := ⟨1800, by decide⟩

instance : Inhabited ParameterLimit := ⟨usual⟩

def of (n : Int) : Except Failure ParameterLimit :=
  if h : 0 < n.toNat then .ok ⟨n.toNat, h⟩ else .error (.argument .maxParams)

/-- How many rows of `perRow` parameters a statement takes. -/
def rows (limit : ParameterLimit) (perRow : Nat) : Nat := (rowsPerChunk limit.count perRow).toNat

end ParameterLimit

end RelationalMapper
