import RelationalMapper.Fault
import RelationalMapper.Value.Text

/-!
Failures: every way in which an operation of the library can end without an answer, each by its
cause. The wording stands in one place, `Failure.message`.
-/

namespace RelationalMapper

open Number

/-- Misuse that is found before any statement is sent. -/
inductive Misuse where
  | alreadyExecuted (type : String)
  | noSetBuilder
  | emptyWhere (operation : String)
  | emptySet
  | nothingToUpdate (type : String)
  | nothingToInsert (type : String)
  | joinWithoutAlias (type : String)
  | outOfScope (type : String)
  | mixedBatch (expected found : String)
  | noKey (operation type : String)
  | nullKey (operation property type : String)
  | aliasOfNothing
  deriving Repr, DecidableEq, Inhabited

/-- A mapping that does not hold together. -/
inductive Misconfiguration where
  | undefinedName (type name : String)
  | secondAutoKey (type property first : String)
  | severalAutoKeys (type : String) (properties : List String)
  | unmapped (type : String) (properties : List String)
  | noField (property type : String)
  | declaredButUnmapped (type property : String)
  deriving Repr, DecidableEq, Inhabited

/-- An argument out of its range. -/
inductive BadArgument where
  | numeral (value : Scalar)
  /-- A text with too many digits to be read as an integer. -/
  | longNumeral (digits : Nat)
  /-- An integer with too many digits to be written as text. -/
  | longInteger
  | floatNotANumber
  | decimalNotANumber
  | quotingDialect (name : String)
  | unquotedIdentifier (text : String)
  | ordinal (n : Int)
  | unboundOrdinals (missing : List Nat)
  | maxParams
  | driverName (available : List String)
  | missingOption (field : String)
  | valueTooLarge
  deriving DecidableEq, Inhabited

inductive Failure where
  | fault (f : Fault)
  | misuse (cause : Misuse)
  | misconfiguration (cause : Misconfiguration)
  | argument (cause : BadArgument)
  | unsupportedDatabase (name : Option String)
  | conversion (value : Value) (target : NativeType)
  /-- A statement failed in the driver. -/
  | execution (operation : String) (sql : Option String) (cause : Option Failure)
  | nestedTransaction
  /-- A value of a type that the operation is not defined for. -/
  | wrongType (text : String)
  /-- A name that a table does not know. -/
  | unknownName
  /-- A number beyond the range of its type. -/
  | overflow (text : String)
  /-- A whole number without room for its digits. -/
  | outOfMemory
  /-- An ordering that involves no number. -/
  | unordered
  /-- A result row without any column. -/
  | emptyRow
  /-- A row that is shorter than what is read from it. -/
  | shortRow
  deriving Inhabited

def quotedList (names : List String) : String :=
  "[" ++ Text.joined ", " (names.map Text.quoted) ++ "]"

def Misuse.message : Misuse → String
  | alreadyExecuted type => "Query on " ++ type ++ " was already executed"
  | noSetBuilder => "update() needs a SET builder function"
  | emptyWhere operation => "WHERE must not be empty for " ++ operation ++ "()"
  | emptySet => "No columns in SET"
  | nothingToUpdate type => "No columns in SET for " ++ type
  | nothingToInsert type => "No columns to insert for " ++ type
  | joinWithoutAlias type => "Join alias must be provided for " ++ type
  | outOfScope type => "Type not present in FROM/JOIN: " ++ type
  | mixedBatch expected found => "Batch of " ++ expected ++ " contains a " ++ found
  | noKey operation type => operation ++ ": " ++ type ++ " has no primary key"
  | nullKey operation property type =>
    operation ++ ": primary key " ++ Text.quoted property ++ " of " ++ type ++ " is None"
  | aliasOfNothing => "as_() needs a preceding column, aggregate or computed expression"

def Misconfiguration.message : Misconfiguration → String
  | undefinedName type name =>
    "Cannot evaluate annotations of " ++ type ++ ": name " ++ Text.quoted name ++ " is not defined"
  | secondAutoKey type property first =>
    type ++ ": second auto primary key " ++ Text.quoted property
      ++ " (already declared on " ++ Text.quoted first ++ ")"
  | severalAutoKeys type properties =>
    type ++ ": only one auto primary key is allowed, got " ++ quotedList properties
  | unmapped type properties =>
    type ++ ": properties " ++ quotedList properties ++ " are not mapped to columns"
  | noField property type => "No field " ++ Text.quoted property ++ " on " ++ type
  | declaredButUnmapped type property =>
    type ++ "." ++ property ++ " is declared as key or column but not mapped"

/-- No more of a refused numeral is shown than this many characters. -/
def shownNumeral : Nat := 200

def digitLimit : String :=
  "Exceeds the limit (" ++ natText mostDigitsAsText ++ " digits) for integer string conversion"

def digitLimitAdvice : String := "; use sys.set_int_max_str_digits() to increase the limit"

def BadArgument.message : BadArgument → String
  | numeral value =>
    "invalid literal for int() with base 10: "
      ++ String.ofList (value.literal.toList.take shownNumeral)
  | longNumeral digits =>
    digitLimit ++ ": value has " ++ natText digits ++ " digits" ++ digitLimitAdvice
  | longInteger => digitLimit ++ digitLimitAdvice
  | floatNotANumber => "cannot convert float NaN to integer"
  | decimalNotANumber => "cannot convert NaN to integer"
  | quotingDialect name => "Unknown dialect: " ++ name
  | unquotedIdentifier text => "Not a quoted identifier: " ++ text
  | ordinal n => "Parameter ordinals start at 1, got " ++ intText n
  | unboundOrdinals missing =>
    "Unbound parameter ordinals: [" ++ Text.joined ", " (missing.map natText) ++ "]"
  | maxParams => "max_params must be positive"
  | driverName available => "drivername must be one of: " ++ quotedList available
  | missingOption field => "field " ++ field ++ " cannot be None or 0"
  | valueTooLarge => "value too large"

namespace Failure

def message : Failure → String
  | fault f => f.message
  | misuse cause => cause.message
  | misconfiguration cause => cause.message
  | argument cause => cause.message
  | unsupportedDatabase name => "Unsupported database: " ++ name.elim "None" Text.quoted
  | conversion value target =>
    "Cannot convert " ++ value.type.label ++ " value " ++ value.literal ++ " to " ++ target.label
  | execution operation sql cause =>
    operation ++ " failed"
      ++ (match cause with
        | none => ""
        | some c => ": " ++ c.message)
      ++ (match sql with
        | none => ""
        | some text => if text = "" then "" else "\nSQL: " ++ text)
  | nestedTransaction => "Nested transactions are not supported"
  | wrongType text | overflow text => text
  | shortRow => "tuple index out of range"
  | unknownName | outOfMemory | unordered | emptyRow => ""

/-- The failure is one of the library's own, which a statement passes on as it is. -/
def isLibrary : Failure → Bool
  | fault f => f.kind.isLibrary
  | misuse _ | misconfiguration _ | unsupportedDatabase _ | conversion .. | execution .. => true
  | _ => false

/-- Integrity was violated, or the connection failed: both are properties of a driver's fault. -/
def faultKind? : Failure → Option FaultKind
  | fault f => some f.kind
  | _ => none

end Failure

end RelationalMapper
