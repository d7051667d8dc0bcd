/-!
Searching and replacing in plain text. Everything is a recursion on the list of characters, so a
statement about text is a statement about lists; the `String` forms only wrap them.
-/

namespace RelationalMapper.Text

/-- Some position of the text begins with `pattern`. -/
def occursIn (pattern : List Char) : List Char → Bool
  | [] => pattern.isEmpty
  | c :: rest => pattern.isPrefixOf (c :: rest) || occursIn pattern rest

/-- The text up to the first place where `pattern` begins. -/
def before (pattern : List Char) : List Char → List Char
  | [] => []
  | c :: rest => if pattern.isPrefixOf (c :: rest) then [] else c :: before pattern rest

/-- The text without any occurrence of `pattern`, found from left to right. -/
def without (pattern : List Char) : List Char → List Char
  | [] => []
  | c :: rest =>
    if pattern.isPrefixOf (c :: rest) then without pattern (rest.drop (pattern.length - 1))
    else c :: without pattern rest
  termination_by text => text.length
  decreasing_by
    · simp only [List.length_drop, List.length_cons]; omega
    · exact Nat.lt_succ_self _

/-- Writes `mark` twice wherever it stands. -/
def doubled (mark : Char) : List Char → List Char
  | [] => []
  | c :: rest => if c = mark then mark :: mark :: doubled mark rest else c :: doubled mark rest

/-- Reads each pair of `mark`s as one. -/
def undoubled (mark : Char) : List Char → List Char
  | a :: b :: rest =>
    if a = mark ∧ b = mark then mark :: undoubled mark rest else a :: undoubled mark (b :: rest)
  | rest => rest

/-- A character other than `mark` is read as itself. -/
theorem undoubled_cons_of_ne {mark c : Char} (h : c ≠ mark) (text : List Char) :
    undoubled mark (c :: text) = c :: undoubled mark text := by
  cases text with
  | nil => rfl
  | cons b rest => rw [undoubled, if_neg (fun hb => h hb.1)]

/-- Doubling is undone by reading the pairs. -/
theorem undoubled_doubled (mark : Char) (text : List Char) :
    undoubled mark (doubled mark text) = text := by
  induction text with
  | nil => rfl
  | cons c rest ih =>
    by_cases h : c = mark
    · subst h; simp [doubled, undoubled, ih]
    · rw [doubled, if_neg h, undoubled_cons_of_ne h, ih]

def contains (pattern text : String) : Bool := occursIn pattern.toList text.toList

def startsWith (beginning text : String) : Bool := beginning.toList.isPrefixOf text.toList

def joined (separator : String) (parts : List String) : String := separator.intercalate parts

end RelationalMapper.Text
