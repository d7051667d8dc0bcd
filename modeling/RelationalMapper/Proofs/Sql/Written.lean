import Mathlib.Algebra.Ring.Nat
import RelationalMapper.Dialect.Basic

/-! # Statements as they are written

A statement is a row of fragments: plain text, quoted names and markers. The scanner reads back
exactly these fragments, whatever the names hold. -/

namespace RelationalMapper

/-- Texts that are joined by nothing stand one after the other. -/
theorem Text.toList_joined_empty (parts : List String) :
    (Text.joined "" parts).toList = parts.flatMap String.toList := by
  have key : ∀ lists : List (List Char), ([] : List Char).intercalate lists = lists.flatten := by
    intro lists
    induction lists with
    | nil => rfl
    | cons l lists ih =>
        cases lists with
        | nil => simp
        | cons l' lists => rw [List.intercalate_cons_cons, ih]; simp
  rw [Text.joined, String.toList_intercalate, String.toList_empty, key, List.flatMap_def]

theorem Text.joined_empty_append (parts more : List String) :
    Text.joined "" (parts ++ more) = Text.joined "" parts ++ Text.joined "" more :=
  String.toList_inj.mp (by simp [Text.toList_joined_empty])

theorem Text.joined_empty_cons (part : String) (parts : List String) :
    Text.joined "" (part :: parts) = part ++ Text.joined "" parts :=
  Text.joined_empty_append [part] parts

theorem Text.joined_cons_cons (separator first second : String) (rest : List String) :
    Text.joined separator (first :: second :: rest) =
      first ++ separator ++ Text.joined separator (second :: rest) := by
  apply String.toList_inj.mp
  simp only [Text.joined, String.toList_intercalate, String.toList_append, List.map_cons,
    List.intercalate_cons_cons]

namespace Sql

inductive Fragment where
  | plain (text : String)
  | name (identifier : String)
  | mark
  deriving Repr, DecidableEq, Inhabited

abbrev Written := List Fragment

namespace Fragment

def chars (q : Quotes) : Fragment → List Char
  | plain text => text.toList
  | name identifier => q.quoteChars identifier.toList
  | mark => ['?']

def isName : Fragment → Bool
  | name _ => true
  | _ => false

end Fragment

/-! ## Plain text -/

/-- Characters that begin a lexeme or close a quoted name. -/
def specials : List Char := ['\'', '"', '\x60', '[', ']', '?', '%', '/', '-']

/-- Text inside which no lexeme begins, whatever follows it. A dash needs another character than
a dash behind it. -/
def isPlain : List Char → Bool
  | [] => true
  | '-' :: c :: rest => c ≠ '-' && isPlain (c :: rest)
  | c :: rest => c ∉ specials && isPlain rest

theorem isPlain_cons {c : Char} {rest : List Char} (h : isPlain (c :: rest) = true) :
    isPlain rest = true ∧ (c ∉ specials ∨ c = '-' ∧ ∃ d more, rest = d :: more ∧ d ≠ '-') := by
  unfold isPlain at h
  split at h
  · contradiction
  · rename_i d more heq
    obtain ⟨rfl, rfl⟩ := List.cons.inj heq
    simp only [Bool.and_eq_true, decide_eq_true_eq] at h
    exact ⟨h.2, .inr ⟨rfl, d, more, rfl, h.1⟩⟩
  · rename_i d more heq
    obtain ⟨rfl, rfl⟩ := List.cons.inj heq
    simp only [Bool.and_eq_true, decide_eq_true_eq] at h
    exact ⟨h.2, .inl h.1⟩

theorem isPlain_cons_of_not_mem {c : Char} {rest : List Char} (hc : c ∉ specials)
    (h : isPlain rest = true) : isPlain (c :: rest) = true := by
  have hne : c ≠ '-' := by
    rintro rfl
    exact hc (by decide)
  unfold isPlain
  split
  · contradiction
  · rename_i heq
    exact absurd (List.cons.inj heq).1 hne
  · rename_i heq
    obtain ⟨rfl, rfl⟩ := List.cons.inj heq
    simp [hc, h]

theorem isPlain_append {a b : List Char} (ha : isPlain a = true) (hb : isPlain b = true) :
    isPlain (a ++ b) = true := by
  induction a with
  | nil => exact hb
  | cons c a ih =>
      obtain ⟨hrest, hc⟩ := isPlain_cons ha
      rcases hc with hc | ⟨rfl, d, more, rfl, hd⟩
      · exact isPlain_cons_of_not_mem hc (ih hrest)
      · have hmore : isPlain (d :: (more ++ b)) = true := ih hrest
        simp [isPlain, hd, hmore]

/-- A text without special characters is plain. -/
theorem isPlain_of_forall {s : List Char} (h : ∀ c ∈ s, c ∉ specials) : isPlain s = true := by
  induction s with
  | nil => rfl
  | cons c s ih =>
      exact isPlain_cons_of_not_mem (h c List.mem_cons_self)
        (ih fun d hd => h d (List.mem_cons_of_mem c hd))

theorem not_quote_head_of_isPlain {s : List Char} (h : isPlain s = true) {c : Char}
    (hc : s.head? = some c) : c ≠ '\'' ∧ c ≠ '"' ∧ c ≠ '\x60' ∧ c ≠ ']' := by
  cases s with
  | nil => simp at hc
  | cons d s =>
      obtain rfl : d = c := by simpa using hc
      rcases (isPlain_cons h).2 with hd | ⟨rfl, -⟩
      · simp only [specials, List.mem_cons, not_or] at hd
        exact ⟨hd.1, hd.2.1, hd.2.2.1, hd.2.2.2.2.1⟩
      · decide

/-- No lexeme begins with a character that is not special. -/
theorem lexeme?_of_not_special {c : Char} {rest : List Char} (hc : c ∉ specials)
    (hrest : rest.head? ≠ some '\'') : lexeme? c rest = none := by
  simp only [specials, List.mem_cons, not_or] at hc
  unfold lexeme?
  split <;> simp_all

theorem lexeme?_dash {d : Char} {rest : List Char} (h : d ≠ '-') :
    lexeme? '-' (d :: rest) = none := by
  unfold lexeme?
  split <;> simp_all

theorem scan_cons_of_none {c : Char} {rest : List Char} (h : lexeme? c rest = none) :
    scan (c :: rest) = joinText c (scan rest) := by
  rw [scan]
  split
  · simp_all
  · rfl

theorem scan_cons_of_some {c : Char} {rest after : List Char} {t : Token}
    (h : lexeme? c rest = some (t, after)) : scan (c :: rest) = t :: scan after := by
  rw [scan]
  split
  · simp_all
  · simp_all

/-- Plain text joins what is scanned behind it. -/
theorem scan_plain_append {s rest : List Char} (hs : isPlain s = true)
    (hrest : rest.head? ≠ some '\'') : scan (s ++ rest) = s.foldr joinText (scan rest) := by
  induction s with
  | nil => rfl
  | cons c s ih =>
      obtain ⟨htail, hc⟩ := isPlain_cons hs
      rw [List.foldr_cons, ← ih htail, List.cons_append]
      apply scan_cons_of_none
      rcases hc with hc | ⟨rfl, d, more, rfl, hd⟩
      · apply lexeme?_of_not_special hc
        cases s with
        | nil => exact hrest
        | cons d s =>
            have := not_quote_head_of_isPlain htail (c := d) rfl
            simpa using this.1
      · exact lexeme?_dash hd

/-! ## Quoted names -/

theorem mem_all_cases {q : Quotes} (h : q ∈ Quotes.all) :
    q = .backticks ∨ q = .doubleQuotes ∨ q = .brackets := by
  simpa [Quotes.all] using h

/-- Doubled marks do not end a body, whatever ends it further on. -/
theorem quotedBody?_doubled_append {mark : Char} (name : List Char) {s body after : List Char}
    (h : quotedBody? mark s = some (body, after)) :
    quotedBody? mark (Text.doubled mark name ++ s) =
      some (Text.doubled mark name ++ body, after) := by
  induction name with
  | nil => exact h
  | cons c name ih =>
      by_cases hc : c = mark
      · simp [Text.doubled, quotedBody?, hc, ih]
      · rw [Text.doubled, if_neg hc, List.cons_append, quotedBody?.eq_def]
        simp only [if_pos hc, ih]
        rfl

theorem quotedBody?_doubled {mark : Char} (name : List Char) {rest : List Char}
    (h : rest.head? ≠ some mark) :
    quotedBody? mark (Text.doubled mark name ++ mark :: rest) =
      some (Text.doubled mark name ++ [mark], rest) := by
  refine quotedBody?_doubled_append name ?_
  cases rest with
  | nil => simp [quotedBody?]
  | cons d rest =>
      have hd : d ≠ mark := by simpa using h
      simp [quotedBody?, hd]

theorem lexeme?_opening {q : Quotes} (hq : q ∈ Quotes.all) (s : List Char) :
    lexeme? q.opening s = opened .quotedIdentifier [q.opening] (quotedBody? q.closing s) := by
  rcases mem_all_cases hq with rfl | rfl | rfl <;> rfl

/-- A quoted name is one lexeme, unless its closing mark follows it once more. -/
theorem scan_quoteChars_append {q : Quotes} (hq : q ∈ Quotes.all) (name : List Char)
    {rest : List Char} (h : rest.head? ≠ some q.closing) :
    scan (q.quoteChars name ++ rest) = ⟨.quotedIdentifier, q.quoteChars name⟩ :: scan rest := by
  have hlex : lexeme? q.opening (Text.doubled q.closing name ++ q.closing :: rest) =
      some (⟨.quotedIdentifier, q.quoteChars name⟩, rest) := by
    rw [lexeme?_opening hq, quotedBody?_doubled name h]
    rfl
  rw [← scan_cons_of_some hlex]
  simp [Quotes.quoteChars]

/-! ## Rows of fragments -/

namespace Written

def chars (q : Quotes) (w : Written) : List Char := w.flatMap (Fragment.chars q)

/-- The tokens that the fragments are meant to be; plain texts side by side are one. -/
def tokens (q : Quotes) : Written → List Token
  | [] => []
  | .plain text :: rest => text.toList.foldr joinText (tokens q rest)
  | .name identifier :: rest =>
    ⟨.quotedIdentifier, q.quoteChars identifier.toList⟩ :: tokens q rest
  | .mark :: rest => ⟨.marker, ['?']⟩ :: tokens q rest

/-- Nothing begins with a name here. -/
def OpensPlain (w : Written) : Prop := ∀ f ∈ w.head?, f.isName = false

/-- Plain fragments are plain text, and no name stands directly behind another one. -/
def Clean : Written → Prop
  | [] => True
  | .plain text :: rest => text ≠ "" ∧ isPlain text.toList = true ∧ Clean rest
  | .name _ :: rest => OpensPlain rest ∧ Clean rest
  | .mark :: rest => Clean rest

@[simp] theorem chars_nil (q : Quotes) : chars q [] = [] := rfl

@[simp] theorem chars_cons (q : Quotes) (f : Fragment) (w : Written) :
    chars q (f :: w) = f.chars q ++ chars q w := rfl

@[simp] theorem chars_append (q : Quotes) (v w : Written) :
    chars q (v ++ w) = chars q v ++ chars q w := List.flatMap_append

@[simp] theorem clean_nil : Clean [] := trivial

@[simp] theorem clean_mark (w : Written) : Clean (.mark :: w) ↔ Clean w := Iff.rfl

@[simp] theorem clean_plain (text : String) (w : Written) :
    Clean (.plain text :: w) ↔ text ≠ "" ∧ isPlain text.toList = true ∧ Clean w := Iff.rfl

@[simp] theorem clean_name (identifier : String) (w : Written) :
    Clean (.name identifier :: w) ↔ OpensPlain w ∧ Clean w := Iff.rfl

@[simp] theorem opensPlain_nil : OpensPlain [] := by simp [OpensPlain]

@[simp] theorem opensPlain_cons (f : Fragment) (w : Written) :
    OpensPlain (f :: w) ↔ f.isName = false := by simp [OpensPlain]

/-- Behind a clean row, a clean row may follow that does not begin with a name. -/
theorem Clean.append {v w : Written} (hv : Clean v) (hw : Clean w) (ho : OpensPlain w) :
    Clean (v ++ w) := by
  induction v with
  | nil => exact hw
  | cons f v ih =>
      cases f with
      | plain text => exact ⟨hv.1, hv.2.1, ih hv.2.2⟩
      | mark => exact ih hv
      | name identifier =>
          refine ⟨?_, ih hv.2⟩
          cases v with
          | nil => exact ho
          | cons g v => exact hv.1

/-- Text ends here, and no name. -/
def Sealed (w : Written) : Prop := ∀ f ∈ w.getLast?, f.isName = false

/-- Behind a clean row that does not end with a name, any clean row may follow. -/
theorem Clean.append_of_sealed {v w : Written} (hv : Clean v) (hs : Sealed v) (hw : Clean w) :
    Clean (v ++ w) := by
  induction v with
  | nil => exact hw
  | cons f v ih =>
      cases v with
      | nil =>
          have hf : f.isName = false := hs f rfl
          cases f with
          | plain text => exact ⟨hv.1, hv.2.1, hw⟩
          | name identifier => contradiction
          | mark => exact hw
      | cons g v =>
          have hs' : Sealed (g :: v) := by simpa [Sealed] using hs
          cases f with
          | plain text => exact ⟨hv.1, hv.2.1, ih hv.2.2 hs'⟩
          | name identifier => exact ⟨hv.1, ih hv.2 hs'⟩
          | mark => exact ih hv hs'

@[simp] theorem sealed_concat (w : Written) (f : Fragment) :
    Sealed (w ++ [f]) ↔ f.isName = false := by simp [Sealed]

theorem OpensPlain.append {v w : Written} (hv : OpensPlain v) (hw : OpensPlain w) :
    OpensPlain (v ++ w) := by
  cases v with
  | nil => exact hw
  | cons f v => exact hv

theorem chars_head_of_clean {q : Quotes} (hq : q ∈ Quotes.all) {w : Written} (hw : Clean w) :
    (chars q w).head? ≠ some '\'' := by
  cases w with
  | nil => simp
  | cons f w =>
      cases f with
      | mark => simp [Fragment.chars]
      | name identifier =>
          rcases mem_all_cases hq with rfl | rfl | rfl <;>
            simp [Fragment.chars, Quotes.quoteChars, Quotes.backticks, Quotes.doubleQuotes,
              Quotes.brackets]
      | plain text =>
          obtain ⟨hne, hplain, -⟩ := hw
          have hlist : text.toList ≠ [] := by simpa using hne
          obtain ⟨c, rest, hcr⟩ := List.exists_cons_of_ne_nil hlist
          have := not_quote_head_of_isPlain hplain (c := c) (by rw [hcr]; rfl)
          simpa [Fragment.chars, hcr] using this.1

theorem chars_head_of_opensPlain {q : Quotes} (hq : q ∈ Quotes.all) {w : Written}
    (hw : Clean w) (ho : OpensPlain w) : (chars q w).head? ≠ some q.closing := by
  have hclosing : q.closing = '"' ∨ q.closing = '\x60' ∨ q.closing = ']' := by
    rcases mem_all_cases hq with rfl | rfl | rfl <;> simp [Quotes.backticks, Quotes.doubleQuotes, Quotes.brackets]
  cases w with
  | nil => simp
  | cons f w =>
      cases f with
      | mark => rcases hclosing with h | h | h <;> simp [Fragment.chars, h]
      | name identifier => simp [OpensPlain, Fragment.isName] at ho
      | plain text =>
          obtain ⟨hne, hplain, -⟩ := hw
          have hlist : text.toList ≠ [] := by simpa using hne
          obtain ⟨c, rest, hcr⟩ := List.exists_cons_of_ne_nil hlist
          obtain ⟨-, h1, h2, h3⟩ := not_quote_head_of_isPlain hplain (c := c) (by rw [hcr]; rfl)
          rcases hclosing with h | h | h <;> simp [Fragment.chars, hcr, h, h1, h2, h3]

/-- The scanner finds exactly the fragments that were written. -/
theorem scan_chars {q : Quotes} (hq : q ∈ Quotes.all) {w : Written} (hw : Clean w) :
    scan (chars q w) = tokens q w := by
  induction w with
  | nil => rw [chars_nil, scan, tokens]
  | cons f w ih =>
      rw [chars_cons]
      cases f with
      | plain text =>
          obtain ⟨-, hplain, hrest⟩ := hw
          rw [tokens, ← ih hrest]
          exact scan_plain_append hplain (chars_head_of_clean hq hrest)
      | name identifier =>
          obtain ⟨ho, hrest⟩ := hw
          rw [tokens, ← ih hrest]
          exact scan_quoteChars_append hq _ (chars_head_of_opensPlain hq hrest ho)
      | mark =>
          rw [tokens, ← ih hw]
          exact scan_cons_of_some (by simp [lexeme?])

/-! ## Joined rows -/

/-- The rows with a plain text between each two of them. -/
def joined (separator : String) (rows : List Written) : Written :=
  [.plain separator].intercalate rows

theorem joined_cons_cons (separator : String) (v w : Written) (rows : List Written) :
    joined separator (v :: w :: rows) = v ++ .plain separator :: joined separator (w :: rows) := by
  rw [joined, List.intercalate_cons_cons, List.append_assoc]
  rfl

theorem chars_joined (q : Quotes) (separator : String) (rows : List Written) {texts : List String}
    (h : rows.map (chars q) = texts.map String.toList) :
    chars q (joined separator rows) = (Text.joined separator texts).toList := by
  rw [Text.joined, String.toList_intercalate, ← h]
  clear h
  induction rows with
  | nil => rfl
  | cons v rows ih =>
      cases rows with
      | nil => simp [joined]
      | cons w rows =>
          rw [joined_cons_cons, chars_append, chars_cons, ih]
          simp [List.intercalate_cons_cons, Fragment.chars]

theorem clean_joined {separator : String} (hne : separator ≠ "")
    (hsep : isPlain separator.toList = true) {rows : List Written} (h : ∀ w ∈ rows, Clean w) :
    Clean (joined separator rows) := by
  induction rows with
  | nil => trivial
  | cons v rows ih =>
      have hv := h v List.mem_cons_self
      cases rows with
      | nil => simpa [joined] using hv
      | cons w rows =>
          have hrest := ih fun x hx => h x (List.mem_cons_of_mem v hx)
          rw [joined_cons_cons]
          exact hv.append ((clean_plain ..).mpr ⟨hne, hsep, hrest⟩) (by simp [Fragment.isName])

theorem count_mark_joined (separator : String) (rows : List Written) :
    (joined separator rows).count .mark = (rows.map (List.count .mark)).sum := by
  induction rows with
  | nil => rfl
  | cons v rows ih =>
      cases rows with
      | nil => simp [joined]
      | cons w rows => rw [joined_cons_cons]; simp [ih]

theorem not_mark_mem_joined (separator : String) {rows : List Written}
    (h : ∀ w ∈ rows, .mark ∉ w) : .mark ∉ joined separator rows := by
  induction rows with
  | nil => exact List.not_mem_nil
  | cons v rows ih =>
      have hv := h v List.mem_cons_self
      cases rows with
      | nil => simpa [joined] using hv
      | cons w rows =>
          have hrest := ih fun x hx => h x (List.mem_cons_of_mem v hx)
          rw [joined_cons_cons]
          simp [hv, hrest]

/-- A list of markers. -/
def markers (count : Nat) : Written := joined ", " (List.replicate count [.mark])

theorem chars_markers (q : Quotes) (count : Nat) :
    chars q (markers count) = (markerList count).toList :=
  chars_joined q ", " _ (by simp [chars, Fragment.chars, questionMark])

theorem clean_markers (count : Nat) : Clean (markers count) :=
  clean_joined (by decide) (by decide) fun w hw => by
    rw [List.eq_of_mem_replicate hw]
    trivial

theorem count_mark_markers (count : Nat) : (markers count).count .mark = count := by
  rw [markers, count_mark_joined]
  simp

end Written

end Sql

end RelationalMapper
