import RelationalMapper.Text.Scan

/-!
SQL split into tokens. Literals, quoted identifiers and comments are single tokens, so that a mark
inside them is not taken for one of the statement. Main statement: the tokens of a text, put one
after another, are the text.
-/

namespace RelationalMapper.Sql

inductive TokenKind where
  | text
  | stringLiteral
  | quotedIdentifier
  | comment
  | marker
  | percent
  deriving Repr, DecidableEq, Inhabited

structure Token where
  kind : TokenKind
  chars : List Char
  deriving Repr, DecidableEq, Inhabited

def Token.content (t : Token) : String := String.ofList t.chars

/-! ### Lexemes -/

/-- The rest of a quoted text up to its closing mark, which a doubled mark is not; where the text
ends without one, the first mark of the last pair closes it. -/
def quotedBody? (mark : Char) : List Char → Option (List Char × List Char)
  | [] => none
  | c :: rest =>
    if c ≠ mark then (quotedBody? mark rest).map fun (body, after) => (c :: body, after)
    else match rest with
      | [] => some ([c], [])
      | d :: more =>
        if d ≠ mark then some ([c], d :: more)
        else match quotedBody? mark more with
          | some (body, after) => some (c :: d :: body, after)
          | none => some ([c], d :: more)

/-- Up to the first end mark of a block comment. -/
def blockBody? : List Char → Option (List Char × List Char)
  | '*' :: '/' :: rest => some (['*', '/'], rest)
  | c :: rest => (blockBody? rest).map fun (body, after) => (c :: body, after)
  | [] => none

/-- Up to the end of the line. -/
def lineBody : List Char → List Char × List Char
  | [] => ([], [])
  | c :: rest =>
    if c = '\n' then ([], c :: rest)
    else let (body, after) := lineBody rest; (c :: body, after)

/-- The lexeme behind its opening characters. -/
def opened (kind : TokenKind) (opening : List Char) (body : Option (List Char × List Char)) :
    Option (Token × List Char) :=
  body.map fun (body, after) => (⟨kind, opening ++ body⟩, after)

/-- The lexeme that begins with `c`, if one does, and what follows it. -/
def lexeme? (c : Char) (rest : List Char) : Option (Token × List Char) :=
  match c, rest with
  | 'N', '\'' :: more => opened .stringLiteral ['N', '\''] (quotedBody? '\'' more)
  | '\'', more => opened .stringLiteral ['\''] (quotedBody? '\'' more)
  | '"', more => opened .quotedIdentifier ['"'] (quotedBody? '"' more)
  | '\x60', more => opened .quotedIdentifier ['\x60'] (quotedBody? '\x60' more)
  | '[', more => opened .quotedIdentifier ['['] (quotedBody? ']' more)
  | '-', '-' :: more => opened .comment ['-', '-'] (some (lineBody more))
  | '/', '*' :: more => opened .comment ['/', '*'] (blockBody? more)
  | '?', more => some (⟨.marker, ['?']⟩, more)
  | '%', more => some (⟨.percent, ['%']⟩, more)
  | _, _ => none

theorem quotedBody?_append {mark : Char} {s body after : List Char}
    (h : quotedBody? mark s = some (body, after)) : body ++ after = s := by
  fun_induction quotedBody? mark s generalizing body after with
  | case1 => simp at h
  | case2 c rest hc ih =>
    obtain ⟨⟨b, a⟩, hb, heq⟩ := Option.map_eq_some_iff.1 h
    obtain ⟨rfl, rfl⟩ := Prod.mk.inj heq
    simp [ih hb]
  | case3 => simp_all
  | case4 => simp at h; simp [← h.1, ← h.2]
  | case5 c d more hc hd b a hb ih =>
    simp only [Option.some.injEq, Prod.mk.injEq] at h
    obtain ⟨rfl, rfl⟩ := h
    simp [ih hb]
  | case6 => simp at h; simp [← h.1, ← h.2]

theorem blockBody?_append {s body after : List Char}
    (h : blockBody? s = some (body, after)) : body ++ after = s := by
  fun_induction blockBody? s generalizing body after with
  | case1 => simp at h; simp [← h.1, ← h.2]
  | case2 c rest _ ih =>
    obtain ⟨⟨b, a⟩, hb, heq⟩ := Option.map_eq_some_iff.1 h
    obtain ⟨rfl, rfl⟩ := Prod.mk.inj heq
    simp [ih hb]
  | case3 => simp at h

theorem lineBody_append (s : List Char) : (lineBody s).1 ++ (lineBody s).2 = s := by
  fun_induction lineBody s with
  | case1 => rfl
  | case2 => rfl
  | case3 c rest _ body after heq ih => rw [heq] at ih; simpa using ih

theorem opened_append {kind : TokenKind} {opening s : List Char}
    {body : Option (List Char × List Char)} {t : Token} {after : List Char}
    (hs : ∀ b a, body = some (b, a) → b ++ a = s) (h : opened kind opening body = some (t, after)) :
    t.chars ++ after = opening ++ s ∧ opening.length ≤ t.chars.length := by
  obtain ⟨⟨b, a⟩, hb, heq⟩ := Option.map_eq_some_iff.1 h
  obtain ⟨rfl, rfl⟩ := Prod.mk.inj heq
  simp [← hs b a hb]

/-- A lexeme and what follows it make up the text, and the lexeme is not empty. -/
theorem lexeme?_append {c : Char} {rest after : List Char} {t : Token}
    (h : lexeme? c rest = some (t, after)) : t.chars ++ after = c :: rest ∧ t.chars ≠ [] := by
  have key : ∀ {opening s : List Char}, 1 ≤ opening.length →
      (t.chars ++ after = opening ++ s ∧ opening.length ≤ t.chars.length) →
      t.chars ++ after = opening ++ s ∧ t.chars ≠ [] := by
    intro opening s hn hh
    refine ⟨hh.1, ?_⟩
    intro he
    have := hh.2
    rw [he, List.length_nil] at this
    omega
  unfold lexeme? at h
  split at h
  case h_8 => simp at h; obtain ⟨rfl, rfl⟩ := h; simp
  case h_9 => simp at h; obtain ⟨rfl, rfl⟩ := h; simp
  case h_10 => simp at h
  case h_6 more =>
    exact key (by simp) (opened_append (s := more) (fun b a hb => by
      have := lineBody_append more
      simp only [Option.some.injEq] at hb
      rw [hb] at this
      exact this) h)
  case h_7 => exact key (by simp) (opened_append (fun _ _ => blockBody?_append) h)
  all_goals exact key (by simp) (opened_append (fun _ _ => quotedBody?_append) h)

/-! ### Tokens -/

/-- A character that begins no lexeme joins the text that follows it. -/
def joinText (c : Char) : List Token → List Token
  | ⟨.text, chars⟩ :: rest => ⟨.text, c :: chars⟩ :: rest
  | tokens => ⟨.text, [c]⟩ :: tokens

/-- The tokens of a text, from left to right. -/
def scan : List Char → List Token
  | [] => []
  | c :: rest =>
    match _h : lexeme? c rest with
    | some (token, after) => token :: scan after
    | none => joinText c (scan rest)
  termination_by s => s.length
  decreasing_by
    · have hl := lexeme?_append _h
      have := congrArg List.length hl.1
      have := List.length_pos_iff.2 hl.2
      simp at *
      omega
    · simp

def tokenize (sql : String) : List Token := scan sql.toList

theorem flatMap_joinText (c : Char) (tokens : List Token) :
    (joinText c tokens).flatMap Token.chars = c :: tokens.flatMap Token.chars := by
  unfold joinText
  split <;> simp

/-- Nothing of the text is lost or moved. -/
theorem scan_flatMap_chars (s : List Char) : (scan s).flatMap Token.chars = s := by
  fun_induction scan s with
  | case1 => rfl
  | case2 c rest token after h ih => simp [ih, (lexeme?_append h).1]
  | case3 c rest h ih => rw [flatMap_joinText, ih]

end RelationalMapper.Sql
