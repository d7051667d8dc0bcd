import RelationalMapper.Text.LetterCase.Table

/-!
Lower and upper case for whole texts. A capital sigma becomes the final form when a letter stands
before it and none after it; a dotted capital I leaves its dot behind as a combining mark; some
letters grow into several when they are raised.
-/

namespace RelationalMapper.Text

open LetterCase

def inRanges (ranges : List (Nat × Nat)) (c : Char) : Bool :=
  ranges.any fun (first, last) => first ≤ c.toNat && c.toNat ≤ last

def moveBy (runs : List Run) (c : Char) : Char :=
  ((runs.findSome? fun run => run.move? c.toNat).map Char.ofNat).getD c

/-- A character with a case, seen past the ones that do not count. -/
def meetsCased : List Char → Bool
  | [] => false
  | c :: rest => if inRanges ignorableRanges c then meetsCased rest else inRanges casedRanges c

/-- The lower-case form of `c`, given what stands before it (nearest first) and after it. -/
def lowerChar (earlier : List Char) (c : Char) (later : List Char) : List Char :=
  if c.toNat < 0x80 then [c.toLower]
  else if c = 'Σ' then if meetsCased earlier && !meetsCased later then ['ς'] else ['σ']
  else if c = 'İ' then ['i', Char.ofNat 0x307]
  else [moveBy lowerRuns c]

def lowerFrom (earlier : List Char) : List Char → List Char
  | [] => []
  | c :: later => lowerChar earlier c later ++ lowerFrom (c :: earlier) later

def upperChar (c : Char) : List Char :=
  if c.toNat < 0x80 then [c.toUpper]
  else match upperExpansions.lookup c.toNat with
    | some letters => letters.toList
    | none => [moveBy upperRuns c]

def lower (text : String) : String := String.ofList (lowerFrom [] text.toList)

def upper (text : String) : String := String.ofList (text.toList.flatMap upperChar)

end RelationalMapper.Text
