import RelationalMapper.Proofs.Sql.Format

/-! # Protected text

A database takes literals, quoted names and comments of a statement apart from the rest; which marks
quote a name depends on the database. The scanner knows the marks of all styles. It finds the markers of
a statement for a database of some of them, as long as the other marks do not stand outside of what
this database protects. -/

namespace RelationalMapper.Sql

/-! ## Regions of a statement -/

/-- Where a reader of a statement stands. -/
inductive Region where
  | plain
  /-- Inside a literal or a name that this mark closes, unless it is doubled. -/
  | quoted (mark : Char)
  | lineComment
  | blockComment
  deriving Repr, DecidableEq, Inhabited

/-- The mark that closes what a character opens: a literal, or a name in one of the styles. -/
def closingMark? (styles : List Quotes) (c : Char) : Option Char :=
  if c = '\'' then some '\'' else (styles.find? (·.opening = c)).map (·.closing)

/-- The characters of a text, each with whether it is protected. -/
abbrev Protection := List (Char × Bool)

/-- Protected characters in front of what follows them. -/
def shielded (chars : List Char) (rest : Option Protection) : Option Protection :=
  rest.map (chars.map (·, true) ++ ·)

/-- What a database with names in these styles protects of a text, read from left to right. There is
no answer for a text that ends inside a literal, a name or a block comment. -/
def protection? (styles : List Quotes) : Region → List Char → Option Protection
  | .plain, [] => some []
  | .plain, 'N' :: '\'' :: rest => shielded ['N', '\''] (protection? styles (.quoted '\'') rest)
  | .plain, '-' :: '-' :: rest => shielded ['-', '-'] (protection? styles .lineComment rest)
  | .plain, '/' :: '*' :: rest => shielded ['/', '*'] (protection? styles .blockComment rest)
  | .plain, c :: rest =>
    match closingMark? styles c with
    | some mark => shielded [c] (protection? styles (.quoted mark) rest)
    | none => (protection? styles .plain rest).map ((c, false) :: ·)
  | .quoted _, [] => none
  | .quoted mark, [c] => if c = mark then some [(c, true)] else none
  | .quoted mark, c :: d :: rest =>
    if c ≠ mark then shielded [c] (protection? styles (.quoted mark) (d :: rest))
    else if d = mark then shielded [c, d] (protection? styles (.quoted mark) rest)
    else shielded [c] (protection? styles .plain (d :: rest))
  | .lineComment, [] => some []
  | .lineComment, c :: rest =>
    if c = '\n' then (protection? styles .plain rest).map ((c, false) :: ·)
    else shielded [c] (protection? styles .lineComment rest)
  | .blockComment, [] => none
  | .blockComment, '*' :: '/' :: rest => shielded ['*', '/'] (protection? styles .plain rest)
  | .blockComment, c :: rest => shielded [c] (protection? styles .blockComment rest)

theorem shielded_eq_some {chars : List Char} {rest : Option Protection} {p : Protection} :
    shielded chars rest = some p ↔ ∃ p', rest = some p' ∧ p = chars.map (·, true) ++ p' := by
  unfold shielded
  rw [Option.map_eq_some_iff]
  exact exists_congr fun p' => and_congr_right fun _ => eq_comm

/-- What opens a literal or a name of a known style. -/
theorem closingMark?_cases {styles : List Quotes} (hstyles : ∀ q ∈ styles, q ∈ Quotes.all)
    {c mark : Char} (h : closingMark? styles c = some mark) :
    c = '\'' ∧ mark = '\'' ∨ c = '\x60' ∧ mark = '\x60' ∨ c = '"' ∧ mark = '"' ∨
      c = '[' ∧ mark = ']' := by
  unfold closingMark? at h
  split at h
  · rename_i hc
    exact .inl ⟨hc, (Option.some.inj h).symm⟩
  · obtain ⟨q, hfind, rfl⟩ := Option.map_eq_some_iff.mp h
    have hopening : q.opening = c := by simpa using List.find?_some hfind
    rcases mem_all_cases (hstyles q (List.mem_of_find?_eq_some hfind)) with rfl | rfl | rfl
    · exact .inr (.inl ⟨hopening.symm, rfl⟩)
    · exact .inr (.inr (.inl ⟨hopening.symm, rfl⟩))
    · exact .inr (.inr (.inr ⟨hopening.symm, rfl⟩))

theorem closingMark?_eq_none {styles : List Quotes} {c : Char}
    (h : closingMark? styles c = none) : c ≠ '\'' ∧ ∀ q ∈ styles, q.opening ≠ c := by
  unfold closingMark? at h
  split at h
  · contradiction
  · rename_i hc
    exact ⟨hc, by simpa using h⟩

/-- A reading leaves the text as it is. -/
theorem map_fst_of_protection? {styles : List Quotes} {region : Region} {s : List Char}
    {p : Protection} (h : protection? styles region s = some p) : p.map Prod.fst = s := by
  have hshielded : ∀ {chars rest : List Char} {found : Option Protection} {p : Protection},
      shielded chars found = some p → (∀ p', found = some p' → p'.map Prod.fst = rest) →
      p.map Prod.fst = chars ++ rest := by
    intro chars rest found p h hrest
    obtain ⟨p', hp', rfl⟩ := shielded_eq_some.mp h
    simp [hrest p' hp', Function.comp_def]
  have hopen : ∀ {c : Char} {rest : List Char} {found : Option Protection} {p : Protection},
      found.map ((c, false) :: ·) = some p → (∀ p', found = some p' → p'.map Prod.fst = rest) →
      p.map Prod.fst = c :: rest := by
    intro c rest found p h hrest
    obtain ⟨p', hp', rfl⟩ := Option.map_eq_some_iff.mp h
    rw [List.map_cons, hrest p' hp']
  fun_induction protection? styles region s generalizing p with
  | case1 => simp_all
  | case2 rest ih => exact hshielded h fun _ => ih
  | case3 rest ih => exact hshielded h fun _ => ih
  | case4 rest ih => exact hshielded h fun _ => ih
  | case5 c rest _ _ _ mark _ ih => exact hshielded h fun _ => ih
  | case6 c rest _ _ _ _ ih => exact hopen h fun _ => ih
  | case7 => contradiction
  | case8 => simp_all
  | case9 => contradiction
  | case10 mark c d rest _ ih => exact hshielded h fun _ => ih
  | case11 c mark rest _ ih => exact hshielded h fun _ => ih
  | case12 mark c d rest _ _ ih => exact hshielded h fun _ => ih
  | case13 => simp_all
  | case14 rest ih => exact hopen h fun _ => ih
  | case15 c rest _ ih => exact hshielded h fun _ => ih
  | case16 => contradiction
  | case17 rest ih => exact hshielded h fun _ => ih
  | case18 c rest _ ih => exact hshielded h fun _ => ih

/-! ## Regions and lexemes -/

section Lexemes

variable {styles : List Quotes} {p : Protection}

/-- A quoted region is the rest of a lexeme, and plain text goes on behind it. -/
theorem quotedBody?_of_protection? {mark : Char} {s : List Char}
    (h : protection? styles (.quoted mark) s = some p) :
    ∃ body after p', quotedBody? mark s = some (body, after) ∧
      protection? styles .plain after = some p' ∧ p = body.map (·, true) ++ p' := by
  fun_induction quotedBody? mark s generalizing p with
  | case1 => simp [protection?] at h
  | case2 c rest hc ih =>
      cases rest with
      | nil => simp [protection?, hc] at h
      | cons d rest =>
          simp only [protection?, if_pos hc] at h
          obtain ⟨p', hrest, rfl⟩ := shielded_eq_some.mp h
          obtain ⟨body, after, p'', hbody, hafter, rfl⟩ := ih hrest
          exact ⟨c :: body, after, p'', by rw [hbody]; rfl, hafter, rfl⟩
  | case3 c hc =>
      obtain rfl : c = mark := by simpa using hc
      obtain rfl : [(c, true)] = p := by simpa [protection?] using h
      exact ⟨[c], [], [], rfl, rfl, rfl⟩
  | case4 c hc d more hd =>
      simp only [protection?, if_neg hc, if_neg hd] at h
      obtain ⟨p', hrest, rfl⟩ := shielded_eq_some.mp h
      exact ⟨[c], d :: more, p', rfl, hrest, rfl⟩
  | case5 c hc d more hd body after hmore ih =>
      have hd' : d = mark := by simpa using hd
      simp only [protection?, if_neg hc, if_pos hd'] at h
      obtain ⟨p', hrest, rfl⟩ := shielded_eq_some.mp h
      obtain ⟨body', after', p'', hbody, hafter, rfl⟩ := ih hrest
      obtain ⟨rfl, rfl⟩ := Prod.mk.inj (Option.some.inj (hmore.symm.trans hbody))
      exact ⟨c :: d :: body, after, p'', rfl, hafter, rfl⟩
  | case6 c hc d more hd hmore ih =>
      have hd' : d = mark := by simpa using hd
      simp only [protection?, if_neg hc, if_pos hd'] at h
      obtain ⟨p', hrest, -⟩ := shielded_eq_some.mp h
      obtain ⟨body, after, -, hbody, -⟩ := ih hrest
      rw [hmore] at hbody
      contradiction

theorem blockBody?_of_protection? {s : List Char}
    (h : protection? styles .blockComment s = some p) :
    ∃ body after p', blockBody? s = some (body, after) ∧
      protection? styles .plain after = some p' ∧ p = body.map (·, true) ++ p' := by
  fun_induction blockBody? s generalizing p with
  | case1 rest =>
      rw [protection?] at h
      obtain ⟨p', hrest, rfl⟩ := shielded_eq_some.mp h
      exact ⟨['*', '/'], rest, p', rfl, hrest, rfl⟩
  | case2 c rest hc ih =>
      have hcons : protection? styles .blockComment (c :: rest) =
          shielded [c] (protection? styles .blockComment rest) := by
        rw [protection?.eq_def]
        simp only
      rw [hcons] at h
      obtain ⟨p', hrest, rfl⟩ := shielded_eq_some.mp h
      obtain ⟨body, after, p'', hbody, hafter, rfl⟩ := ih hrest
      exact ⟨c :: body, after, p'', by rw [hbody]; rfl, hafter, rfl⟩
  | case3 => simp [protection?] at h

theorem lineBody_of_protection? (hstyles : ∀ q ∈ styles, q ∈ Quotes.all) {s : List Char}
    (h : protection? styles .lineComment s = some p) :
    ∃ p', protection? styles .plain (lineBody s).2 = some p' ∧
      p = (lineBody s).1.map (·, true) ++ p' := by
  induction s generalizing p with
  | nil =>
      obtain rfl : [] = p := by simpa [protection?] using h
      exact ⟨[], rfl, rfl⟩
  | cons c s ih =>
      rw [protection?] at h
      by_cases hc : c = '\n'
      · rw [if_pos hc] at h
        subst hc
        have hmark : closingMark? styles '\n' = none := by
          cases hmark : closingMark? styles '\n' with
          | none => rfl
          | some mark => rcases closingMark?_cases hstyles hmark with h | h | h | h <;> simp at h
        exact ⟨p, by simpa [lineBody, protection?, hmark] using h, rfl⟩
      · rw [if_neg hc] at h
        obtain ⟨p', hrest, rfl⟩ := shielded_eq_some.mp h
        obtain ⟨p'', hafter, rfl⟩ := ih hrest
        refine ⟨p'', ?_, ?_⟩
        · simpa [lineBody, hc] using hafter
        · simp [lineBody, hc]

/-- A protected piece of a statement is one lexeme that is no marker. -/
def Protects (styles : List Quotes) (p : Protection) (found : Option (Token × List Char)) : Prop :=
  ∃ t after p', found = some (t, after) ∧ t.kind ≠ .marker ∧
    protection? styles .plain after = some p' ∧ p = t.chars.map (·, true) ++ p'

theorem Protects.opened {kind : TokenKind} (hkind : kind ≠ .marker) {opening body after : List Char}
    {p' : Protection} (hafter : protection? styles .plain after = some p')
    (hp : p = opening.map (·, true) ++ (body.map (·, true) ++ p')) :
    Protects styles p (opened kind opening (some (body, after))) :=
  ⟨⟨kind, opening ++ body⟩, after, p', rfl, hkind, hafter, by simp [hp]⟩

/-- What opens nothing of these styles begins no lexeme, but for markers, percent signs and the marks
of other styles. -/
theorem lexeme?_of_unopened {c : Char} {rest : List Char} (hmark : closingMark? styles c = none)
    (hnational : ∀ more, c = 'N' → rest = '\'' :: more → False)
    (hline : ∀ more, c = '-' → rest = '-' :: more → False)
    (hblock : ∀ more, c = '/' → rest = '*' :: more → False) :
    lexeme? c rest = none ∨ c = '?' ∨ c = '%' ∨ ∃ q ∈ Quotes.all, q ∉ styles ∧ q.opening = c := by
  obtain ⟨hliteral, hname⟩ := closingMark?_eq_none hmark
  have hother : ∀ q ∈ Quotes.all, q.opening = c →
      ∃ q ∈ Quotes.all, q ∉ styles ∧ q.opening = c :=
    fun q hq hopening => ⟨q, hq, fun hmem => hname q hmem hopening, hopening⟩
  unfold lexeme?
  split
  case h_1 more => exact (hnational more rfl rfl).elim
  case h_2 => exact absurd rfl hliteral
  case h_3 => exact .inr (.inr (.inr (hother .doubleQuotes (by decide) rfl)))
  case h_4 => exact .inr (.inr (.inr (hother .backticks (by decide) rfl)))
  case h_5 => exact .inr (.inr (.inr (hother .brackets (by decide) rfl)))
  case h_6 more => exact (hline more rfl rfl).elim
  case h_7 more => exact (hblock more rfl rfl).elim
  case h_8 => exact .inr (.inl rfl)
  case h_9 => exact .inr (.inr (.inl rfl))
  case h_10 => exact .inl rfl

/-- In plain text a lexeme is protected, or the character is not and begins none, but for markers,
percent signs and the marks of other styles. -/
theorem protection?_plain_cons (hstyles : ∀ q ∈ styles, q ∈ Quotes.all) {c : Char}
    {rest : List Char} (h : protection? styles .plain (c :: rest) = some p) :
    Protects styles p (lexeme? c rest) ∨
      (∃ p', protection? styles .plain rest = some p' ∧ p = (c, false) :: p') ∧
        (lexeme? c rest = none ∨ c = '?' ∨ c = '%' ∨
          ∃ q ∈ Quotes.all, q ∉ styles ∧ q.opening = c) := by
  rw [protection?.eq_def] at h
  split at h
  all_goals try contradiction
  case h_2 _ rest' heq =>
    obtain ⟨rfl, rfl⟩ := List.cons.inj heq
    obtain ⟨p', hrest, rfl⟩ := shielded_eq_some.mp h
    obtain ⟨body, after, p'', hbody, hafter, rfl⟩ := quotedBody?_of_protection? hrest
    left
    simp only [lexeme?, hbody]
    exact .opened (by decide) hafter rfl
  case h_3 _ rest' heq =>
    obtain ⟨rfl, rfl⟩ := List.cons.inj heq
    obtain ⟨p', hrest, rfl⟩ := shielded_eq_some.mp h
    obtain ⟨p'', hafter, rfl⟩ := lineBody_of_protection? hstyles hrest
    left
    simp only [lexeme?]
    exact .opened (by decide) hafter rfl
  case h_4 _ rest' heq =>
    obtain ⟨rfl, rfl⟩ := List.cons.inj heq
    obtain ⟨p', hrest, rfl⟩ := shielded_eq_some.mp h
    obtain ⟨body, after, p'', hbody, hafter, rfl⟩ := blockBody?_of_protection? hrest
    left
    simp only [lexeme?, hbody]
    exact .opened (by decide) hafter rfl
  case h_5 c' rest' hnational hline hblock _ heq =>
    obtain ⟨rfl, rfl⟩ := List.cons.inj heq
    cases hmark : closingMark? styles c with
    | some mark =>
        rw [hmark] at h
        obtain ⟨p', hrest, rfl⟩ := shielded_eq_some.mp h
        obtain ⟨body, after, p'', hbody, hafter, rfl⟩ := quotedBody?_of_protection? hrest
        left
        rcases closingMark?_cases hstyles hmark with ⟨rfl, rfl⟩ | ⟨rfl, rfl⟩ | ⟨rfl, rfl⟩ |
          ⟨rfl, rfl⟩
        all_goals
          simp only [lexeme?, hbody]
          exact .opened (by decide) hafter rfl
    | none =>
        rw [hmark] at h
        obtain ⟨p', hrest, rfl⟩ := Option.map_eq_some_iff.mp h
        exact .inr ⟨⟨p', hrest, rfl⟩, lexeme?_of_unopened hmark hnational hline hblock⟩

end Lexemes

theorem mem_of_quotedBody? {mark : Char} {s body after : List Char}
    (h : quotedBody? mark s = some (body, after)) : mark ∈ s := by
  fun_induction quotedBody? mark s generalizing body after with
  | case1 => contradiction
  | case2 c rest hc ih =>
      obtain ⟨⟨body', after'⟩, hbody, -⟩ := Option.map_eq_some_iff.mp h
      exact List.mem_cons_of_mem c (ih hbody)
  | case3 c hc =>
      obtain rfl : c = mark := by simpa using hc
      exact List.mem_cons_self
  | _ => simp_all

theorem quotedBody?_eq_none {mark : Char} {s : List Char} (h : mark ∉ s) :
    quotedBody? mark s = none := by
  cases hbody : quotedBody? mark s with
  | none => rfl
  | some found => exact absurd (mem_of_quotedBody? hbody) h

/-- A name that is not closed anywhere begins no lexeme. -/
theorem lexeme?_unclosed {q : Quotes} (hq : q ∈ Quotes.all) {rest : List Char}
    (h : q.closing ∉ rest) : lexeme? q.opening rest = none := by
  rw [lexeme?_opening hq, quotedBody?_eq_none h]
  rfl

/-! ## Markers outside protected text -/

/-- What a driver's text has for a character: a directive for a question mark that is not protected, and
every percent sign twice. -/
def directedChars (entry : Char × Bool) : List Char :=
  if entry = ('?', false) then ['%', 's'] else Text.doubled '%' [entry.1]

theorem flatMap_directedChars_protected (chars : List Char) :
    (chars.map (·, true)).flatMap directedChars = Text.doubled '%' chars := by
  induction chars with
  | nil => rfl
  | cons c chars ih =>
      rw [List.map_cons, List.flatMap_cons, ih]
      by_cases hc : c = '%' <;> simp [directedChars, Text.doubled, hc]

theorem flatMap_restyled_joinText (c : Char) (tokens : List Token) (placeholder : List Char) :
    (joinText c tokens).flatMap (restyled placeholder) =
      Text.doubled '%' [c] ++ tokens.flatMap (restyled placeholder) := by
  have hdoubled : ∀ chars : List Char,
      Text.doubled '%' (c :: chars) = Text.doubled '%' [c] ++ Text.doubled '%' chars := by
    intro chars
    by_cases hc : c = '%' <;> simp [Text.doubled, hc]
  unfold joinText
  split
  · rename_i chars rest
    rw [List.flatMap_cons, List.flatMap_cons, restyled_of_ne (by simp), restyled_of_ne (by simp),
      ← List.append_assoc, hdoubled chars]
  · rw [List.flatMap_cons, restyled_of_ne (by simp)]

/-- The markers that are restyled are the question marks outside of what a database protects, as long
as no mark of another style opens a name there. -/
theorem restyle_of_protection? {styles : List Quotes} (hstyles : ∀ q ∈ styles, q ∈ Quotes.all)
    {s : List Char} {p : Protection} (h : protection? styles .plain s = some p)
    (hother : ∀ q ∈ Quotes.all, q ∉ styles → (q.opening, false) ∉ p ∨ q.closing ∉ s) :
    restyle ['%', 's'] s = p.flatMap directedChars := by
  unfold restyle
  fun_induction scan s generalizing p with
  | case1 =>
      obtain rfl : [] = p := by simpa [protection?] using h
      rfl
  | case2 c rest token after hlex ih =>
      have hwhole := (lexeme?_append hlex).1
      have hlater : ∀ {p' : Protection}, p' ⊆ p → ∀ q ∈ Quotes.all, q ∉ styles →
          (q.opening, false) ∉ p' ∨ q.closing ∉ after := by
        intro p' hsub q hq hs
        refine (hother q hq hs).imp (fun h hmem => h (hsub hmem)) fun h hmem => h ?_
        rw [← hwhole]
        exact List.mem_append_right _ hmem
      rcases protection?_plain_cons hstyles h with
        ⟨t, after', p', hfound, hkind, hafter, rfl⟩ | ⟨⟨p', hrest, rfl⟩, hc⟩
      · obtain ⟨rfl, rfl⟩ := Prod.mk.inj (Option.some.inj (hlex.symm.trans hfound))
        have htail := ih hafter (hlater (List.subset_append_right _ _))
        rw [List.flatMap_cons, List.flatMap_append, htail, restyled_of_ne hkind,
          flatMap_directedChars_protected]
      · have hstep : after = rest ∧ restyled ['%', 's'] token = directedChars (c, false) := by
          rcases hc with hc | rfl | rfl | ⟨q, hq, hs, rfl⟩
          · rw [hlex] at hc
            contradiction
          · obtain ⟨rfl, rfl⟩ := Prod.mk.inj (Option.some.inj hlex)
            exact ⟨rfl, rfl⟩
          · obtain ⟨rfl, rfl⟩ := Prod.mk.inj (Option.some.inj hlex)
            exact ⟨rfl, rfl⟩
          · rcases hother q hq hs with hopening | hclosing
            · exact absurd List.mem_cons_self hopening
            · rw [lexeme?_unclosed hq fun hmem => hclosing (List.mem_cons_of_mem _ hmem)] at hlex
              contradiction
        have htail := ih (hstep.1 ▸ hrest) (hlater (List.subset_cons_self _ _))
        rw [List.flatMap_cons, List.flatMap_cons, htail, hstep.2]
  | case3 c rest hlex ih =>
      rcases protection?_plain_cons hstyles h with
        ⟨t, after', p', hfound, -⟩ | ⟨⟨p', hrest, rfl⟩, -⟩
      · rw [hlex] at hfound
        contradiction
      · have htail := ih hrest fun q hq hs => (hother q hq hs).imp
          (fun h hmem => h (List.mem_cons_of_mem _ hmem))
          (fun h hmem => h (List.mem_cons_of_mem _ hmem))
        have hc : c ≠ '?' := by
          rintro rfl
          contradiction
        rw [flatMap_restyled_joinText, htail, List.flatMap_cons]
        simp [directedChars, hc]

/-- The question marks of a text, each with whether it is protected. -/
def questionMarks (p : Protection) : List (Char × Bool) := p.filter (·.1 = '?')

/-- Two readings of a text that protect the same question marks lead to the same directives. -/
theorem flatMap_directedChars_congr {p p' : Protection} (htext : p.map Prod.fst = p'.map Prod.fst)
    (hmarks : questionMarks p = questionMarks p') : p.flatMap directedChars = p'.flatMap directedChars := by
  induction p generalizing p' with
  | nil =>
      obtain rfl : p' = [] := by simpa using htext.symm
      rfl
  | cons entry p ih =>
      obtain _ | ⟨entry', p'⟩ := p'
      · simp at htext
      · obtain ⟨c, b⟩ := entry
        obtain ⟨c', b'⟩ := entry'
        obtain ⟨rfl, htail⟩ : c = c' ∧ p.map Prod.fst = p'.map Prod.fst := by simpa using htext
        rw [List.flatMap_cons, List.flatMap_cons]
        by_cases hc : c = '?'
        · obtain ⟨rfl, hrest⟩ : b = b' ∧ questionMarks p = questionMarks p' := by
            simpa [questionMarks, hc] using hmarks
          rw [ih htail hrest]
        · have hrest : questionMarks p = questionMarks p' := by simpa [questionMarks, hc] using hmarks
          have hentry : directedChars (c, b) = directedChars (c, b') := by simp [directedChars, hc]
          rw [ih htail hrest, hentry]

end Sql

/-! ## Statements with names in double quotes -/

namespace Dialect

open Sql

/-- On a dialect that quotes names with double quotes alone, a statement without backticks outside of
what its database protects gets a directive for each question mark that is not protected, and for no
other. What stands between square brackets is read as one name: where a bracket is closed, that
reading must come to the same question marks. -/
theorem standardize_postgres {sql : String} {p : Protection}
    (h : protection? [.doubleQuotes] .plain sql.toList = some p) (hback : ('`', false) ∉ p)
    (hbrackets : ('[', false) ∉ p ∨ ']' ∉ sql.toList ∨
      ∃ p', protection? [.doubleQuotes, .brackets] .plain sql.toList = some p' ∧
        ('`', false) ∉ p' ∧ questionMarks p' = questionMarks p) :
    (Dialect.postgres.standardize sql).toList = p.flatMap directedChars := by
  rw [standardize_of_format (d := .postgres) rfl]
  by_cases hplain : ('[', false) ∉ p ∨ ']' ∉ sql.toList
  · refine restyle_of_protection? (by decide) h fun q hq hs => ?_
    rcases mem_all_cases hq with rfl | rfl | rfl
    · exact .inl hback
    · exact absurd List.mem_cons_self hs
    · exact hplain
  · obtain ⟨p', hp', hback', hmarks⟩ := (or_assoc.mpr hbrackets).resolve_left hplain
    have htext : p'.map Prod.fst = p.map Prod.fst :=
      (map_fst_of_protection? hp').trans (map_fst_of_protection? h).symm
    rw [← flatMap_directedChars_congr htext hmarks]
    refine restyle_of_protection? (by decide) hp' fun q hq hs => ?_
    rcases mem_all_cases hq with rfl | rfl | rfl
    · exact .inl hback'
    · exact absurd (by decide) hs
    · exact absurd (by decide) hs

/-- A subscript, and question marks in literals, in a name and in both kinds of comment: the pieces
of a statement, each with whether it is protected. -/
def subscriptPieces (subscript : Bool) : List (String × Bool) :=
  [("SELECT a", false), ("[1]", subscript), (", ", false), ("'it''s?'", true), (", ", false),
    ("N'?'", true), (", ", false), ("\"b?\"", true), (" FROM t ", false), ("/* ? */", true),
    (" WHERE c = ? AND d LIKE ", false), ("'%'", true), (" ", false), ("-- e?", true),
    ("\n AND f < ?", false)]

def subscriptProtection (subscript : Bool) : Protection :=
  (subscriptPieces subscript).flatMap fun (piece, shield) => piece.toList.map (·, shield)

/-- The two question marks that are not protected become directives. -/
theorem standardize_postgres_subscript :
    let sql := String.join ((subscriptPieces true).map Prod.fst)
    protection? [.doubleQuotes] .plain sql.toList = some (subscriptProtection false) ∧
    protection? [.doubleQuotes, .brackets] .plain sql.toList = some (subscriptProtection true) ∧
    (Dialect.postgres.standardize sql).toList =
      ("SELECT a[1], 'it''s?', N'?', \"b?\" FROM t /* ? */ WHERE c = %s AND d LIKE '%%' -- e?" ++
        "\n AND f < %s").toList := by
  intro sql
  have hp : protection? [.doubleQuotes] .plain sql.toList = some (subscriptProtection false) := by
    decide +kernel
  have hp' : protection? [.doubleQuotes, .brackets] .plain sql.toList =
      some (subscriptProtection true) := by
    decide +kernel
  refine ⟨hp, hp', ?_⟩
  have hback : ∀ subscript : Bool, ('\x60', false) ∉ subscriptProtection subscript := by
    decide +kernel
  rw [standardize_postgres hp (hback false)
    (.inr (.inr ⟨_, hp', hback true, by decide +kernel⟩))]
  decide +kernel

/-- The marker in an array is read as a part of a name and stays a question mark. -/
theorem standardize_postgres_array :
    protection? [.doubleQuotes] .plain "SELECT ARRAY[?]".toList =
        some ("SELECT ARRAY[?]".toList.map (·, false)) ∧
      ('`', false) ∉ "SELECT ARRAY[?]".toList.map (·, false) ∧
      ("SELECT ARRAY[?]".toList.map (·, false)).flatMap directedChars =
        "SELECT ARRAY[%s]".toList ∧
      Dialect.postgres.standardize "SELECT ARRAY[?]" = "SELECT ARRAY[?]" := by
  refine ⟨by decide +kernel, by decide +kernel, by decide +kernel, by decide +kernel⟩

end Dialect

end RelationalMapper
