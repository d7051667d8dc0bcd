import RelationalMapper.Value.Text

/-!
Binding: the form in which a value is handed to a driver. Missing values become null, machine
formats are unwrapped, and each style writes as text what its drivers cannot bind themselves.
-/

namespace RelationalMapper

open Calendar

/-- What a family of drivers can bind. -/
inductive BindingStyle where
  /-- Identifiers as they are. -/
  | nativeUuid
  /-- Identifiers as text. -/
  | textUuid
  /-- Only what a storage class holds: no truth values, decimals, identifiers or dates. -/
  | storageClasses
  deriving Repr, DecidableEq, Inhabited

namespace BindingStyle

/-- The style of a dialect, by its name. -/
def ofName (dialect : String) : BindingStyle :=
  if dialect = "postgresql" then nativeUuid
  else if dialect = "sqlite" then storageClasses
  else textUuid

end BindingStyle

namespace Scalar

/-- A point in time to the microsecond. -/
def withoutNanoseconds : Scalar → Scalar
  | timestamp t => dateTime t.moment
  | s => s

/-- What a storage class holds in place of a value. -/
def stored : Scalar → Scalar
  | bool b => int (if b then 1 else 0)
  | decimal d | refinedDecimal d => text d.text
  | dateTime m | refinedDateTime m => text (m.text ' ')
  | date d | refinedDate d => text d.text
  | s => s

def uuidAsText : Scalar → Scalar
  | uuid u | refinedUuid u => text u.text
  | s => s

/-- The scalar that a driver of this style is given. -/
def bound (style : BindingStyle) (s : Scalar) : Scalar :=
  if s.isMissing then null
  else
    let plain := s.unwrapped.withoutNanoseconds
    match style with
    | .nativeUuid => plain
    | .textUuid => plain.uuidAsText
    | .storageClasses => plain.uuidAsText.stored

end Scalar

namespace Value

def bound (style : BindingStyle) : Value → Value
  | scalar s => scalar (s.bound style)
  | list items => list items

end Value

end RelationalMapper
