import Mathlib.Data.List.Chain
import RelationalMapper.Proofs.Sql.Written

/-! # Statements as words

A database reads a statement as a row of words: keywords and punctuation, names without their quotes,
and marks. A statement that was written cleanly is read fragment by fragment. -/

namespace RelationalMapper.Sql

/-- What a database reads a statement as. -/
inductive Word where
  /-- A keyword, a numeral or a punctuation character. -/
  | symbol (text : String)
  | name (identifier : String)
  | literal (text : String)
  | mark
  deriving Repr, DecidableEq, Inhabited

/-! ## Words of plain text -/

def isWordChar (c : Char) : Bool := c.isAlphanum || c = '_' || c = '@'

def finishedWord (letters : List Char) : List String :=
  if letters = [] then [] else [String.ofList letters]

/-- The words of a text behind the letters of an unfinished one. What is no letter stands for itself,
unless it is blank. -/
def wordsBehind (letters : List Char) : List Char → List String
  | [] => finishedWord letters
  | c :: rest =>
    if isWordChar c then wordsBehind (letters ++ [c]) rest
    else finishedWord letters ++ ((if Text.isBlank c then [] else [String.singleton c])
      ++ wordsBehind [] rest)

def textWords (text : List Char) : List Word := (wordsBehind [] text).map .symbol

/-- No word reaches over a character that is no letter. -/
theorem wordsBehind_append_cons {c : Char} (hc : isWordChar c = false) (letters a b : List Char) :
    wordsBehind letters (a ++ c :: b) = wordsBehind letters (a ++ [c]) ++ wordsBehind [] b := by
  induction a generalizing letters with
  | nil => simp [wordsBehind, hc, finishedWord]
  | cons d a ih =>
      by_cases hd : isWordChar d = true
      · simp [wordsBehind, hd, ih]
      · simp [wordsBehind, hd, ih]

/-- The text ends with a character that is no letter. -/
def endsOpen (text : List Char) : Bool := text.getLast?.any fun c => !isWordChar c

/-- The text begins with a character that is no letter. -/
def opensApart (text : List Char) : Bool := text.head?.any fun c => !isWordChar c

theorem wordsBehind_append_of_opensApart {b : List Char} (hb : opensApart b = true)
    (letters a : List Char) :
    wordsBehind letters (a ++ b) = wordsBehind letters a ++ wordsBehind [] b := by
  cases b with
  | nil => simp [opensApart] at hb
  | cons c b =>
      have hc : isWordChar c = false := by simpa [opensApart] using hb
      induction a generalizing letters with
      | nil => simp [wordsBehind, hc, finishedWord]
      | cons d a ih =>
          by_cases hd : isWordChar d = true
          · simp [wordsBehind, hd, ih]
          · simp [wordsBehind, hd, ih]

/-- No word reaches over a border at which one of the texts has a character that is no letter. -/
theorem textWords_append {a b : List Char} (h : endsOpen a = true ∨ opensApart b = true) :
    textWords (a ++ b) = textWords a ++ textWords b := by
  rcases h with ha | hb
  · rcases List.eq_nil_or_concat a with rfl | ⟨a, c, rfl⟩
    · simp [endsOpen] at ha
    · have hc : isWordChar c = false := by simpa [endsOpen] using ha
      rw [List.concat_eq_append, textWords, List.append_assoc, List.singleton_append,
        wordsBehind_append_cons hc, List.map_append]
      rfl
  · rw [textWords, wordsBehind_append_of_opensApart hb, List.map_append]
    rfl

/-! ## Words of tokens -/

/-- The name between quotes of whatever style. -/
def unquotedName (quoted : List Char) : String :=
  String.ofList ((Quotes.all.findSome? (·.unquoteChars? quoted)).getD quoted)

def Token.words (t : Token) : List Word :=
  match t.kind with
  | .text | .percent => textWords t.chars
  | .stringLiteral => [.literal t.content]
  | .quotedIdentifier => [.name (unquotedName t.chars)]
  | .comment => []
  | .marker => [.mark]

def words (sql : String) : List Word := (tokenize sql).flatMap Token.words

/-- The styles are told apart by their opening marks. -/
theorem Quotes.unquoteChars?_eq_none {q q' : Quotes} (h : q.opening ≠ q'.opening) (name : List Char) :
    q'.unquoteChars? (q.quoteChars name) = none := by
  rw [quoteChars, List.cons_append, unquoteChars?, if_neg fun hq' => h hq'.1]

theorem findSome?_unquoteChars? {q : Quotes} (hq : q ∈ Quotes.all) (name : List Char) :
    Quotes.all.findSome? (·.unquoteChars? (q.quoteChars name)) = some name := by
  have hread := q.unquoteChars?_quoteChars name
  refine List.findSome?_eq_some_iff.mpr ?_
  rcases mem_all_cases hq with rfl | rfl | rfl
  · exact ⟨[], _, [.doubleQuotes, .brackets], rfl, hread, by simp⟩
  · refine ⟨[.backticks], _, [.brackets], rfl, hread, fun q' hq' => ?_⟩
    obtain rfl := List.mem_singleton.mp hq'
    exact Quotes.unquoteChars?_eq_none (by decide) name
  · refine ⟨[.backticks, .doubleQuotes], _, [], rfl, hread, fun q' hq' => ?_⟩
    rcases List.mem_pair.mp hq' with rfl | rfl
    · exact Quotes.unquoteChars?_eq_none (by decide) name
    · exact Quotes.unquoteChars?_eq_none (by decide) name

theorem unquotedName_quoteChars {q : Quotes} (hq : q ∈ Quotes.all) (name : String) :
    unquotedName (q.quoteChars name.toList) = name := by
  rw [unquotedName, findSome?_unquoteChars? hq, Option.getD_some, String.ofList_toList]

/-! ## Words of fragments -/

def Fragment.words : Fragment → List Word
  | plain text => textWords text.toList
  | name identifier => [.name identifier]
  | mark => [.mark]

/-- No word reaches over the end of the fragment. -/
def Fragment.endsOpen : Fragment → Bool
  | plain text => Sql.endsOpen text.toList
  | _ => true

theorem foldr_joinText_text (s chars : List Char) (tokens : List Token) :
    s.foldr joinText (⟨.text, chars⟩ :: tokens) = ⟨.text, s ++ chars⟩ :: tokens := by
  induction s with
  | nil => rfl
  | cons c s ih => rw [List.foldr_cons, ih]; rfl

theorem joinText_cases (c : Char) (tokens : List Token) :
    (∃ chars rest, tokens = ⟨.text, chars⟩ :: rest ∧
        joinText c tokens = ⟨.text, c :: chars⟩ :: rest) ∨
      joinText c tokens = ⟨.text, [c]⟩ :: tokens := by
  unfold joinText
  split
  · exact .inl ⟨_, _, rfl, rfl⟩
  · exact .inr rfl

/-- Text in front of tokens adds its own words, unless its last word goes on in them. -/
theorem words_foldr_joinText_of_apart {s : List Char} (hs : s ≠ []) {tokens : List Token}
    (h : ∀ chars rest, tokens = ⟨.text, chars⟩ :: rest → endsOpen s = true ∨ opensApart chars = true) :
    (s.foldr joinText tokens).flatMap Token.words = textWords s ++ tokens.flatMap Token.words := by
  rcases List.eq_nil_or_concat s with rfl | ⟨a, c, rfl⟩
  · contradiction
  · rw [List.concat_eq_append] at h ⊢
    rw [List.foldr_append, List.foldr_cons, List.foldr_nil]
    rcases joinText_cases c tokens with ⟨chars, rest, rfl, hjoin⟩ | hjoin
    · have hsplit : textWords (a ++ c :: chars) = textWords (a ++ [c]) ++ textWords chars := by
        rw [← textWords_append (h chars rest rfl), List.append_assoc,
          List.singleton_append]
      rw [hjoin, foldr_joinText_text, List.flatMap_cons, List.flatMap_cons, ← List.append_assoc]
      simp only [Token.words, hsplit]
    · rw [hjoin, foldr_joinText_text, List.flatMap_cons]
      rfl

/-- The fragment does not go on with a word in front of it. -/
def Fragment.opensApart : Fragment → Bool
  | plain text => Sql.opensApart text.toList
  | _ => true

/-- No word reaches over the end of a fragment. -/
def Written.Apart (w : Written) : Prop :=
  w.IsChain fun f g => f.endsOpen = true ∨ g.opensApart = true

/-- Text in front is joined with the text that comes next. -/
theorem foldr_joinText_head {s : List Char} {tokens : List Token} {chars : List Char}
    {rest : List Token} (h : s.foldr joinText tokens = ⟨.text, chars⟩ :: rest) (hs : s ≠ []) :
    chars.head? = s.head? := by
  cases s with
  | nil => contradiction
  | cons c s =>
      rw [List.foldr_cons] at h
      unfold joinText at h
      split at h
      all_goals
        injection h with h _
        injection h with _ h
        rw [← h]
        rfl

/-- A text that was written cleanly has the words of its fragments. -/
theorem Written.words_eq_of_apart {q : Quotes} (hq : q ∈ Quotes.all) {w : Written} (hw : Clean w)
    (hapart : w.Apart) {sql : String} (h : chars q w = sql.toList) :
    words sql = w.flatMap Fragment.words := by
  rw [words, tokenize, ← h, scan_chars hq hw]
  clear h
  induction w with
  | nil => rfl
  | cons f w ih =>
      have hrest := ih (by cases f <;> simp_all) hapart.tail
      rw [List.flatMap_cons, ← hrest]
      cases f with
      | plain text =>
          have hne : text.toList ≠ [] := by simpa using hw.1
          refine words_foldr_joinText_of_apart hne fun chars rest htokens => ?_
          cases w with
          | nil => simp [tokens] at htokens
          | cons g w =>
              rcases hapart.rel with hopen | hopen
              · exact .inl hopen
              · cases g with
                | plain text' =>
                    have hne' : text'.toList ≠ [] := by simpa using hw.2.2.1
                    have hhead := foldr_joinText_head htokens hne'
                    exact .inr (by rw [Sql.opensApart, hhead]; exact hopen)
                | name identifier => simp [tokens] at htokens
                | mark => simp [tokens] at htokens
      | name identifier =>
          rw [tokens, List.flatMap_cons]
          simp only [Token.words, Fragment.words, unquotedName_quoteChars hq]
      | mark => rfl

theorem Written.apart_of_endsOpen {w : Written} (h : ∀ f ∈ w, f.endsOpen = true) : w.Apart := by
  induction w with
  | nil => exact .nil
  | cons f w ih =>
      have hrest := ih fun g hg => h g (List.mem_cons_of_mem f hg)
      cases w with
      | nil => exact .singleton f
      | cons g w => exact .cons_cons (.inl (h f List.mem_cons_self)) hrest

theorem Written.words_eq {q : Quotes} (hq : q ∈ Quotes.all) {w : Written} (hw : Clean w)
    (hopen : ∀ f ∈ w, f.endsOpen = true) {sql : String} (h : chars q w = sql.toList) :
    words sql = w.flatMap Fragment.words :=
  words_eq_of_apart hq hw (apart_of_endsOpen hopen) h

/-- The words of joined rows are their words with those of the separator between them. -/
theorem Written.words_joined (separator : String) (rows : List Written) :
    (joined separator rows).flatMap Fragment.words =
      (textWords separator.toList).intercalate (rows.map (List.flatMap Fragment.words)) := by
  induction rows with
  | nil => rfl
  | cons v rows ih =>
      cases rows with
      | nil => simp [joined]
      | cons w rows =>
          rw [joined_cons_cons, List.flatMap_append, List.flatMap_cons, ih]
          simp [List.intercalate_cons_cons, Fragment.words]

theorem Written.endsOpen_joined {separator : String} (hsep : Sql.endsOpen separator.toList = true)
    {rows : List Written} (h : ∀ w ∈ rows, ∀ f ∈ w, f.endsOpen = true) :
    ∀ f ∈ joined separator rows, f.endsOpen = true := by
  induction rows with
  | nil => simp [joined, List.intercalate]
  | cons v rows ih =>
      have hv := h v List.mem_cons_self
      cases rows with
      | nil => simpa [joined] using hv
      | cons w rows =>
          have hrest := ih fun x hx => h x (List.mem_cons_of_mem v hx)
          rw [joined_cons_cons]
          intro f hf
          rcases List.mem_append.mp hf with hf | hf
          · exact hv f hf
          · rcases List.mem_cons.mp hf with rfl | hf
            · exact hsep
            · exact hrest f hf

/-- What is read of lists with a separator is read of the lists, if the separator has nothing to read. -/
theorem filterMap_intercalate {α β γ : Type} {read : α → Option β} {separator : List α}
    (hseparator : separator.filterMap read = []) (row : γ → List α) (items : List γ) :
    (separator.intercalate (items.map row)).filterMap read =
      items.flatMap fun item => (row item).filterMap read := by
  induction items with
  | nil => rfl
  | cons item items ih =>
      cases items with
      | nil => simp
      | cons next items =>
          rw [List.map_cons] at ih ⊢
          rw [List.map_cons, List.intercalate_cons_cons, List.filterMap_append,
            List.filterMap_append, hseparator, List.append_nil, ih]
          rfl

theorem mem_intercalate {α : Type} {separator : List α} {rows : List (List α)} {x : α}
    (h : x ∈ separator.intercalate rows) : x ∈ separator ∨ ∃ row ∈ rows, x ∈ row := by
  induction rows with
  | nil => simp [List.intercalate] at h
  | cons row rows ih =>
      cases rows with
      | nil => exact .inr ⟨row, List.mem_cons_self, by simpa using h⟩
      | cons row' rows =>
          rw [List.intercalate_cons_cons, List.mem_append, List.mem_append] at h
          rcases h with (h | h) | h
          · exact .inr ⟨row, List.mem_cons_self, h⟩
          · exact .inl h
          · rcases ih h with h | ⟨r, hr, hx⟩
            · exact .inl h
            · exact .inr ⟨r, List.mem_cons_of_mem _ hr, hx⟩

/-! ## What a statement does -/

def beginsWith (keyword sql : String) : Bool := (words sql).head? = some (.symbol keyword)

/-- How many marks each group in parentheses has. -/
def groupMarks : List Word → List Nat
  | [] => []
  | word :: rest =>
    if word = .symbol "(" then
      (rest.takeWhile (· ≠ .symbol ")")).count .mark :: groupMarks rest
    else groupMarks rest

/-- How many marks each group of values has that an insertion gives. -/
def valueGroups (sql : String) : List Nat :=
  groupMarks ((words sql).dropWhile (· ≠ .symbol "VALUES"))

@[simp] theorem groupMarks_nil : groupMarks [] = [] := rfl

theorem groupMarks_cons {word : Word} (h : word ≠ .symbol "(") (rest : List Word) :
    groupMarks (word :: rest) = groupMarks rest := by
  rw [groupMarks, if_neg h]

theorem groupMarks_append {ws : List Word} (h : .symbol "(" ∉ ws) (rest : List Word) :
    groupMarks (ws ++ rest) = groupMarks rest := by
  induction ws with
  | nil => rfl
  | cons word ws ih =>
      have hword : word ≠ .symbol "(" := fun he => h (he ▸ List.mem_cons_self)
      rw [List.cons_append, groupMarks_cons hword, ih fun hm => h (List.mem_cons_of_mem _ hm)]

/-- A group without groups inside. -/
theorem groupMarks_group {ws : List Word} (hopen : .symbol "(" ∉ ws) (hclose : .symbol ")" ∉ ws)
    (rest : List Word) :
    groupMarks (.symbol "(" :: (ws ++ .symbol ")" :: rest)) = ws.count .mark :: groupMarks rest := by
  have hinside : (ws ++ .symbol ")" :: rest).takeWhile (· ≠ .symbol ")") = ws := by
    rw [List.takeWhile_append_of_pos, List.takeWhile_cons_of_neg (by simp), List.append_nil]
    intro word hword
    simpa using fun he : word = .symbol ")" => hclose (he ▸ hword)
  rw [groupMarks, if_pos rfl, hinside, groupMarks_append hopen, groupMarks_cons (by simp)]

end RelationalMapper.Sql
