import RelationalMapper.Proofs.Text.Raised
import RelationalMapper.Text.Blank

/-! # Argument lists of a type

A reader of types goes from left to right and notices brackets and the marks around texts. A list of
arguments is what stands between brackets that are neither in another list nor in a text. Capitals and
blanks around a type leave its lists where they are. -/

namespace RelationalMapper

open Text

/-- The marks around texts. -/
inductive TextMark where
  | apostrophe | quotation
  deriving DecidableEq

/-- What a reader of types notices. -/
def delimiters : List Char := ['(', ')', '\'', '"']

theorem of_mem_delimiters {c : Char} (h : c ∈ delimiters) : isSign c = true ∧ isBlank c = false := by
  have key : delimiters.all (fun c => isSign c = true ∧ isBlank c = false) = true := by decide
  exact of_decide_eq_true (List.all_eq_true.mp key c h)

theorem plain_of_all {text : List Char} (h : text.all (· ∉ delimiters) = true) :
    ∀ c ∈ text, c ∉ delimiters :=
  fun c hc => of_decide_eq_true (List.all_eq_true.mp h c hc)

namespace TextMark

def char : TextMark → Char
  | apostrophe => '\''
  | quotation => '"'

def ofChar? (c : Char) : Option TextMark := [apostrophe, quotation].find? (·.char = c)

theorem char_mem_delimiters (mark : TextMark) : mark.char ∈ delimiters := by
  cases mark <;> decide

theorem ofChar?_eq_none {c : Char} (h : c ∉ delimiters) : ofChar? c = none := by
  refine List.find?_eq_none.mpr fun mark _ hmark => h ?_
  rw [← of_decide_eq_true hmark]
  exact mark.char_mem_delimiters

end TextMark

/-- How far a type has been read: how many brackets are open, the mark of a text that is open, what
the open list has so far, and the lists that have ended. -/
structure TypeReading where
  depth : Nat := 0
  mark : Option TextMark := none
  pending : List Char := []
  lists : List (List Char) := []
  deriving DecidableEq

namespace TypeReading

/-- Outside of all brackets nothing is kept. -/
def keep (r : TypeReading) (text : List Char) : TypeReading :=
  { r with pending := if r.depth = 0 then r.pending else r.pending ++ text }

/-- Brackets in a text are no brackets. -/
def next (r : TypeReading) (c : Char) : TypeReading :=
  match r.mark with
  | some mark => { r.keep [c] with mark := if c = mark.char then none else some mark }
  | none =>
    if c = '(' then { r.keep [c] with depth := r.depth + 1 }
    else if c = ')' then
      if r.depth = 1 then { r with depth := 0, pending := [], lists := r.lists ++ [r.pending] }
      else { r.keep [c] with depth := r.depth - 1 }
    else { r.keep [c] with mark := TextMark.ofChar? c }

def read (r : TypeReading) (text : List Char) : TypeReading := text.foldl next r

/-- Nothing is open. -/
def closed (lists : List (List Char)) : TypeReading := { lists }

end TypeReading

/-- The lists of arguments in a type. -/
def argumentLists (type : String) : List (List Char) :=
  ((TypeReading.closed []).read type.toList).lists

/-- The type has these lists of arguments, and no bracket or text is open at its end. -/
def HasLists (type : String) (lists : List (List Char)) : Prop :=
  (TypeReading.closed []).read type.toList = .closed lists

instance (type : String) (lists : List (List Char)) : Decidable (HasLists type lists) :=
  inferInstanceAs (Decidable (_ = _))

example : argumentLists "ENUM('a)', 'b(') CHARACTER SET utf8" = ["'a)', 'b('".toList] := by decide

namespace TypeReading

variable {r : TypeReading} {text arguments : List Char} {lists : List (List Char)} {c : Char}

@[simp] theorem read_nil : r.read [] = r := rfl

@[simp] theorem read_cons : r.read (c :: text) = (r.next c).read text := rfl

theorem read_append (r : TypeReading) (a b : List Char) : r.read (a ++ b) = (r.read a).read b :=
  List.foldl_append

@[simp] theorem keep_nil : r.keep [] = r := by simp [keep]

theorem keep_keep (a b : List Char) : (r.keep a).keep b = r.keep (a ++ b) := by
  by_cases h : r.depth = 0 <;> simp [keep, h]

theorem keep_of_depth (h : r.depth = 0) : r.keep text = r := by
  cases r
  simp_all [keep]

@[simp] theorem keep_closed (lists : List (List Char)) : (closed lists).keep text = closed lists :=
  keep_of_depth rfl

/-! ## Plain characters -/

theorem next_of_not_mem (h : c ∉ delimiters) : r.next c = r.keep [c] := by
  unfold next
  cases hr : r.mark with
  | none =>
      have hopening : c ≠ '(' := fun he => h (he ▸ by decide)
      have hclosing : c ≠ ')' := fun he => h (he ▸ by decide)
      simp [hopening, hclosing, TextMark.ofChar?_eq_none h, keep, hr]
  | some mark =>
      have hne : c ≠ mark.char := fun he => h (he ▸ mark.char_mem_delimiters)
      simp [hne, keep, hr]

theorem read_of_not_mem (h : ∀ c ∈ text, c ∉ delimiters) : r.read text = r.keep text := by
  induction text generalizing r with
  | nil => rw [read_nil, keep_nil]
  | cons c text ih =>
      rw [read_cons, next_of_not_mem (h c List.mem_cons_self),
        ih fun x hx => h x (List.mem_cons_of_mem c hx), keep_keep, List.singleton_append]

/-- Nothing opens without an opening bracket. -/
theorem read_of_no_bracket (h : '(' ∉ text) (hr : r.depth = 0) :
    (r.read text).depth = 0 ∧ (r.read text).lists = r.lists := by
  induction text generalizing r with
  | nil => exact ⟨hr, rfl⟩
  | cons c text ih =>
      have hc : c ≠ '(' := fun he => h (he ▸ List.mem_cons_self)
      have hnext : (r.next c).depth = 0 ∧ (r.next c).lists = r.lists := by
        unfold next
        cases r.mark with
        | some mark => exact ⟨hr, rfl⟩
        | none => by_cases hclosing : c = ')' <;> simp [hc, hclosing, hr, keep]
      obtain ⟨hdepth, hlists⟩ := ih (fun hx => h (List.mem_cons_of_mem c hx)) hnext.1
      exact ⟨hdepth, hlists.trans hnext.2⟩

/-! ## Texts -/

theorem next_mark (mark : TextMark) (h : r.mark = none) :
    r.next mark.char = { r.keep [mark.char] with mark := some mark } := by
  cases mark <;> simp [next, h, TextMark.char, TextMark.ofChar?]

theorem read_in_mark {mark : TextMark} (h : mark.char ∉ text) (hr : r.mark = some mark) :
    r.read (text ++ [mark.char]) = { r.keep (text ++ [mark.char]) with mark := none } := by
  induction text generalizing r with
  | nil => simp [next, hr]
  | cons c text ih =>
      have hne : c ≠ mark.char := fun he => h (he ▸ List.mem_cons_self)
      have hnext : r.next c = r.keep [c] := by simp [next, hr, hne, keep]
      rw [List.cons_append, read_cons, hnext,
        ih (r := r.keep [c]) (fun hx => h (List.mem_cons_of_mem c hx)) hr, keep_keep,
        List.singleton_append]

/-- A text between marks is read over, brackets and all. -/
theorem read_quoted {mark : TextMark} (h : mark.char ∉ text) (hr : r.mark = none) :
    r.read (mark.char :: (text ++ [mark.char])) = r.keep (mark.char :: (text ++ [mark.char])) := by
  have hinside : { r.keep [mark.char] with mark := some mark }.mark = some mark := rfl
  have hkeep := keep_keep (r := r) [mark.char] (text ++ [mark.char])
  rw [List.singleton_append] at hkeep
  rw [read_cons, next_mark mark hr, read_in_mark h hinside, ← hkeep]
  exact congrArg (fun m => { (r.keep [mark.char]).keep (text ++ [mark.char]) with mark := m }) hr.symm

end TypeReading

/-! ## Names and arguments -/

/-- Brackets and marks stand in pairs; with no brackets allowed, they stand in texts only. -/
inductive Paired (brackets : Bool) : List Char → Prop
  | nil : Paired brackets []
  | char {c : Char} {rest : List Char} (hc : c ∉ delimiters) (h : Paired brackets rest) :
      Paired brackets (c :: rest)
  | quoted {mark : TextMark} {text rest : List Char} (htext : mark.char ∉ text)
      (h : Paired brackets rest) : Paired brackets (mark.char :: (text ++ [mark.char]) ++ rest)
  | nested {inner rest : List Char} (hbrackets : brackets = true) (hinner : Paired brackets inner)
      (h : Paired brackets rest) : Paired brackets ('(' :: inner ++ ')' :: rest)

theorem Paired.of_plain {text : List Char} (brackets : Bool) (h : ∀ c ∈ text, c ∉ delimiters) :
    Paired brackets text := by
  induction text with
  | nil => exact .nil
  | cons c text ih =>
      exact .char (h c List.mem_cons_self) (ih fun x hx => h x (List.mem_cons_of_mem c hx))

/-- A type name, which may have words behind its one list of arguments. -/
inductive TypeText : List Char → Option (List Char) → Prop
  | bare {name : List Char} (h : Paired false name) : TypeText name none
  | listed {name arguments behind : List Char} (hname : Paired false name)
      (harguments : Paired true arguments) (hbehind : Paired false behind) :
      TypeText (name ++ ('(' :: arguments ++ [')']) ++ behind) (some arguments)

namespace TypeReading

variable {r : TypeReading} {text arguments : List Char} {lists : List (List Char)}

/-- In a list everything is kept; outside of it there is nothing to keep without brackets. -/
theorem read_paired {brackets : Bool} (h : Paired brackets text) (hmark : r.mark = none)
    (hdepth : brackets = true → 0 < r.depth) : r.read text = r.keep text := by
  induction h generalizing r with
  | nil => rw [read_nil, keep_nil]
  | @char c rest hc h ih =>
      rw [read_cons, next_of_not_mem hc, ih (r := r.keep [c]) hmark hdepth, keep_keep,
        List.singleton_append]
  | @quoted mark text rest htext h ih =>
      rw [read_append, read_quoted htext hmark,
        ih (r := r.keep (mark.char :: (text ++ [mark.char]))) hmark hdepth, keep_keep]
  | @nested inner rest hbrackets hinner h ihinner ih =>
      -- The inner brackets end no list: there is one open around them.
      have hpos := (hdepth hbrackets).ne'
      have hopen : r.next '(' = { r.keep ['('] with depth := r.depth + 1 } := by simp [next, hmark]
      have hinside : ({ r.keep ['('] with depth := r.depth + 1 } : TypeReading).keep inner =
          { r.keep ('(' :: inner) with depth := r.depth + 1 } := by
        simp [keep, hpos]
      have hclose : ({ r.keep ('(' :: inner) with depth := r.depth + 1 } : TypeReading).next ')' =
          r.keep ('(' :: (inner ++ [')'])) := by
        simp [next, keep, hmark, hpos]
      rw [List.append_cons, List.cons_append, List.cons_append, read_cons, hopen, read_append,
        read_append, ihinner (r := { r.keep ['('] with depth := r.depth + 1 }) hmark
          (fun _ => Nat.succ_pos _), hinside, read_cons, hclose, read_nil,
        ih (r := r.keep ('(' :: (inner ++ [')']))) hmark hdepth, keep_keep]
      rfl

theorem read_list (h : Paired true arguments) :
    (closed lists).read ('(' :: arguments ++ [')']) = closed (lists ++ [arguments]) := by
  have hopen : (closed lists).next '(' = { depth := 1, lists } := rfl
  rw [List.cons_append, read_cons, hopen, read_append, read_paired h rfl fun _ => Nat.one_pos]
  rfl

/-! ## Capitals -/

/-- The reading with what it keeps in capitals. -/
def raised (r : TypeReading) : TypeReading :=
  { r with
    pending := r.pending.flatMap upperChar
    lists := r.lists.map (·.flatMap upperChar) }

theorem raised_keep (r : TypeReading) (text : List Char) :
    (r.keep text).raised = r.raised.keep (text.flatMap upperChar) := by
  by_cases h : r.depth = 0 <;> simp [raised, keep, h]

theorem raised_next_sign {c : Char} (h : upperChar c = [c]) (r : TypeReading) :
    r.raised.next c = (r.next c).raised := by
  have hkeep := raised_keep r [c]
  rw [List.flatMap_cons, h, List.flatMap_nil, List.append_nil] at hkeep
  -- Depth and mark are the same in capitals, so that both readings take the same branch.
  have hdepth : r.raised.depth = r.depth := rfl
  have hmark : r.raised.mark = r.mark := rfl
  unfold next
  rw [hdepth, hmark, ← hkeep]
  cases r.mark with
  | some mark => rfl
  | none =>
      by_cases hopening : c = '('
      · simp only [if_pos hopening]
        rfl
      · by_cases hclosing : c = ')'
        · by_cases hlast : r.depth = 1
          · simp only [if_neg hopening, if_pos hclosing, if_pos hlast]
            simp [raised]
          · simp only [if_neg hopening, if_pos hclosing, if_neg hlast]
            rfl
        · simp only [if_neg hopening, if_neg hclosing]
          rfl

/-- A reader notices the same in capitals. -/
theorem raised_next (r : TypeReading) (c : Char) :
    r.raised.read (upperChar c) = (r.next c).raised := by
  rcases upperChar_cases c with ⟨-, hsame⟩ | ⟨hletter, hletters⟩
  · rw [hsame, read_cons, read_nil, raised_next_sign hsame]
  · have hplain {x : Char} (hx : isSign x = false) : x ∉ delimiters := fun h => by
      rw [(of_mem_delimiters h).1] at hx
      cases hx
    rw [read_of_not_mem fun x hx => hplain (hletters x hx), next_of_not_mem (hplain hletter),
      raised_keep, List.flatMap_cons, List.flatMap_nil, List.append_nil]

theorem raised_read (r : TypeReading) (text : List Char) :
    r.raised.read (text.flatMap upperChar) = (r.read text).raised := by
  induction text generalizing r with
  | nil => rfl
  | cons c text ih => rw [List.flatMap_cons, read_append, raised_next, ih, read_cons]

/-! ## Blanks -/

theorem read_blanks (h : ∀ c ∈ text, isBlank c = true) : r.read text = r.keep text := by
  refine read_of_not_mem fun c hc hmem => ?_
  have hblank := h c hc
  rw [(of_mem_delimiters hmem).2] at hblank
  cases hblank

theorem eq_closed_of_keep (h : r.keep text = closed lists) : r = closed lists := by
  have hdepth : r.depth = 0 := congrArg TypeReading.depth h
  rwa [keep_of_depth hdepth] at h

/-- Blanks around a type are read over. -/
theorem read_trimChars (h : (closed []).read text = closed lists) :
    (closed []).read (trimChars text) = closed lists := by
  have hfront : (closed []).read (text.dropWhile isBlank) = closed lists := by
    rw [← List.takeWhile_append_dropWhile (p := isBlank) (l := text), read_append,
      read_blanks (List.all_eq_true.mp List.all_takeWhile), keep_closed] at h
    exact h
  have hback := List.takeWhile_append_dropWhile (p := isBlank) (l := (text.dropWhile isBlank).reverse)
  rw [← List.reverse_inj, List.reverse_append, List.reverse_reverse] at hback
  rw [← hback, read_append, read_blanks fun c hc => ?_] at hfront
  · exact eq_closed_of_keep hfront
  · exact List.all_eq_true.mp List.all_takeWhile c (List.mem_reverse.mp hc)

end TypeReading

/-! ## Lists of a type -/

namespace HasLists

variable {type : String} {lists lists' : List (List Char)}

theorem of_typeText {stated : Option (List Char)} (h : TypeText type.toList stated) :
    HasLists type stated.toList := by
  unfold HasLists
  generalize type.toList = text at h
  cases h with
  | bare h =>
      rw [TypeReading.read_paired h rfl (by simp), TypeReading.keep_closed]
      rfl
  | listed hname harguments hbehind =>
      rw [TypeReading.read_append, TypeReading.read_append,
        TypeReading.read_paired hname rfl (by simp), TypeReading.keep_closed,
        TypeReading.read_list harguments, TypeReading.read_paired hbehind rfl (by simp),
        TypeReading.keep_closed]
      rfl

theorem argumentLists_eq (h : HasLists type lists) : argumentLists type = lists :=
  congrArg TypeReading.lists h

theorem unique (h : HasLists type lists) (h' : HasLists type lists') : lists = lists' :=
  h.argumentLists_eq.symm.trans h'.argumentLists_eq

theorem mem_bracket {arguments : List Char} (h : HasLists type (arguments :: lists)) :
    '(' ∈ type.toList := by
  by_contra hnone
  have hlists := (TypeReading.read_of_no_bracket (r := .closed []) hnone rfl).2
  rw [h] at hlists
  cases hlists

/-- One more list at the end. -/
theorem append {arguments : String} (h : HasLists type lists)
    (harguments : Paired true arguments.toList) :
    HasLists (type ++ "(" ++ arguments ++ ")") (lists ++ [arguments.toList]) := by
  rw [HasLists, String.toList_append, String.toList_append, String.toList_append, List.append_assoc,
    List.append_assoc, TypeReading.read_append, h]
  exact TypeReading.read_list harguments

theorem upper (h : HasLists type lists) :
    HasLists (Text.upper type) (lists.map (·.flatMap upperChar)) := by
  have hraised := TypeReading.raised_read (.closed []) type.toList
  rw [h] at hraised
  rw [HasLists, Text.upper, String.toList_ofList]
  exact hraised

theorem trim (h : HasLists type lists) : HasLists (Text.trim type) lists := by
  rw [HasLists, Text.trim, String.toList_ofList]
  exact TypeReading.read_trimChars h

end HasLists

end RelationalMapper
