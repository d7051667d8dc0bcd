import RelationalMapper.Proofs.Sql.Written

/-! # Where a statement takes its parameters

The markers of a statement are found by scanning it. A statement that is put together from parts,
some of which bind values, has its markers inside these parts and nowhere else. -/

namespace RelationalMapper.Sql

/-! ## Offsets of markers -/

/-- The offsets of the markers among tokens the first of which begins at `start`. -/
def markersFrom (start : Nat) : List Token → List Nat
  | [] => []
  | t :: rest =>
    if t.kind = .marker then start :: markersFrom (start + t.chars.length) rest
    else markersFrom (start + t.chars.length) rest

/-- The offsets at which a statement has markers. -/
def markerOffsets (sql : String) : List Nat := markersFrom 0 (tokenize sql)

theorem length_markersFrom (start : Nat) (tokens : List Token) :
    (markersFrom start tokens).length = tokens.countP (·.kind = .marker) := by
  induction tokens generalizing start with
  | nil => rfl
  | cons t rest ih =>
      by_cases h : t.kind = .marker <;> simp [markersFrom, h, ih]

theorem markersFrom_joinText (start : Nat) (c : Char) (tokens : List Token) :
    markersFrom start (joinText c tokens) = markersFrom (start + 1) tokens := by
  unfold joinText
  split
  · simp only [markersFrom, List.length_cons, reduceCtorEq, if_false]
    congr 1
    omega
  · rfl

theorem markersFrom_foldr_joinText (start : Nat) (s : List Char) (tokens : List Token) :
    markersFrom start (s.foldr joinText tokens) = markersFrom (start + s.length) tokens := by
  induction s generalizing start with
  | nil => rfl
  | cons c s ih =>
      rw [List.foldr_cons, markersFrom_joinText, ih, List.length_cons]
      congr 1
      omega

namespace Written

/-- The offsets of the marks in a row of fragments that begins at `start`. -/
def offsets (q : Quotes) (start : Nat) : Written → List Nat
  | [] => []
  | .mark :: rest => start :: offsets q (start + 1) rest
  | f :: rest => offsets q (start + (f.chars q).length) rest

theorem markersFrom_tokens (q : Quotes) (start : Nat) (w : Written) :
    markersFrom start (tokens q w) = offsets q start w := by
  induction w generalizing start with
  | nil => rfl
  | cons f w ih =>
      cases f with
      | plain text => simp [tokens, markersFrom_foldr_joinText, ih, offsets, Fragment.chars]
      | name identifier => simp [tokens, markersFrom, ih, offsets, Fragment.chars]
      | mark => simp [tokens, markersFrom, ih, offsets]

theorem offsets_append (q : Quotes) (start : Nat) (v w : Written) :
    offsets q start (v ++ w) = offsets q start v ++ offsets q (start + (chars q v).length) w := by
  induction v generalizing start with
  | nil => rfl
  | cons f v ih =>
      cases f with
      | mark => simp [offsets, ih, Fragment.chars, Nat.add_assoc, Nat.add_comm 1]
      | plain text => simp [offsets, ih, Nat.add_assoc]
      | name identifier => simp [offsets, ih, Nat.add_assoc]

theorem offsets_add (q : Quotes) (start n : Nat) (w : Written) :
    offsets q (start + n) w = (offsets q n w).map (start + ·) := by
  induction w generalizing n with
  | nil => rfl
  | cons f w ih =>
      cases f with
      | mark => simp [offsets, Nat.add_assoc, ih]
      | plain text => simp only [offsets, Nat.add_assoc, ih]
      | name identifier => simp only [offsets, Nat.add_assoc, ih]

theorem length_offsets (q : Quotes) (start : Nat) (w : Written) :
    (offsets q start w).length = w.count .mark := by
  induction w generalizing start with
  | nil => rfl
  | cons f w ih => cases f <;> simp [offsets, ih]

theorem offsets_eq_nil {q : Quotes} {start : Nat} {w : Written} (h : .mark ∉ w) :
    offsets q start w = [] :=
  List.eq_nil_of_length_eq_zero (by rw [length_offsets, List.count_eq_zero_of_not_mem h])

/-- The markers of a text that was written cleanly are the marks of its fragments. -/
theorem markerOffsets_eq {q : Quotes} (hq : q ∈ Quotes.all) {w : Written} (hw : Clean w)
    {sql : String} (h : chars q w = sql.toList) : markerOffsets sql = offsets q 0 w := by
  rw [markerOffsets, tokenize, ← h, scan_chars hq hw, markersFrom_tokens]

/-- A text that was written cleanly has as many markers as marks. -/
theorem countP_marker_eq {q : Quotes} (hq : q ∈ Quotes.all) {w : Written} (hw : Clean w)
    {sql : String} (h : chars q w = sql.toList) :
    (tokenize sql).countP (·.kind = .marker) = w.count .mark := by
  rw [← length_markersFrom 0, ← markerOffsets, markerOffsets_eq hq hw h, length_offsets]

end Written

/-! ## Parts that bind values -/

/-- A part of a statement with the values that its markers stand for. -/
structure Part where
  text : String
  params : List Value
  deriving DecidableEq, Inhabited

/-- A statement made of parts, each behind some other text. -/
def assembled (leads : List String) (parts : List Part) (tail : String) : String :=
  Text.joined "" ((leads.zip parts).map fun (lead, part) => lead ++ part.text) ++ tail

/-- The offsets of the markers inside the parts, of which the first lead begins at `start`. -/
def partOffsets (start : Nat) : List (String × Part) → List Nat
  | [] => []
  | (lead, part) :: rest =>
    (markerOffsets part.text).map (start + lead.length + ·)
      ++ partOffsets (start + lead.length + part.text.length) rest

/-- The markers of a statement are exactly those inside its parts, which come in the order of the
parameters, each part with as many markers as values. -/
structure Aligned (sql : String) (params : List Value) (parts : List Part) : Prop where
  params_eq : params = parts.flatMap (·.params)
  length_eq : ∀ part ∈ parts, (markerOffsets part.text).length = part.params.length
  offsets_eq : ∃ leads tail, leads.length = parts.length ∧ sql = assembled leads parts tail ∧
    markerOffsets sql = partOffsets 0 (leads.zip parts)

theorem length_partOffsets (start : Nat) {leads : List String} {parts : List Part}
    (hlen : leads.length = parts.length)
    (heach : ∀ part ∈ parts, (markerOffsets part.text).length = part.params.length) :
    (partOffsets start (leads.zip parts)).length = (parts.flatMap (·.params)).length := by
  induction parts generalizing leads start with
  | nil => simp [partOffsets]
  | cons part parts ih =>
      cases leads with
      | nil => simp at hlen
      | cons lead leads =>
          have hrest := ih (start + lead.length + part.text.length) (by simpa using hlen)
            fun p hp => heach p (List.mem_cons_of_mem _ hp)
          simp [partOffsets, heach part List.mem_cons_self, hrest]

/-- As many markers as parameters. -/
theorem Aligned.count_eq {sql : String} {params : List Value} {parts : List Part}
    (h : Aligned sql params parts) :
    (tokenize sql).countP (·.kind = .marker) = params.length := by
  obtain ⟨leads, tail, hlen, -, hoff⟩ := h.offsets_eq
  rw [← length_markersFrom 0, ← markerOffsets, hoff, h.params_eq,
    length_partOffsets 0 hlen h.length_eq]

/-! ## Writing parts among other text -/

/-- The row consists of the parts, in this order, and of text without marks around them. -/
inductive Carries (q : Quotes) : Written → List Part → Prop where
  | frame {w : Written} (h : .mark ∉ w) : Carries q w []
  | part {lead body rest : Written} {part : Part} {parts : List Part} (hlead : .mark ∉ lead)
      (htext : Written.chars q body = part.text.toList) (hclean : Written.Clean body)
      (hcount : body.count .mark = part.params.length) (hrest : Carries q rest parts) :
      Carries q (lead ++ (body ++ rest)) (part :: parts)

namespace Carries

variable {q : Quotes} {v w : Written} {part : Part} {parts more : List Part}

theorem prepend (h : .mark ∉ v) (hw : Carries q w parts) : Carries q (v ++ w) parts := by
  cases hw with
  | frame hw => exact .frame (by simp [h, hw])
  | part hlead htext hclean hcount hrest =>
      rw [← List.append_assoc]
      exact .part (by simp [h, hlead]) htext hclean hcount hrest

theorem append (hv : Carries q v parts) (hw : Carries q w more) :
    Carries q (v ++ w) (parts ++ more) := by
  induction hv with
  | frame h => exact hw.prepend h
  | part hlead htext hclean hcount _ ih =>
      rw [List.append_assoc, List.append_assoc]
      exact .part hlead htext hclean hcount ih

theorem single (htext : Written.chars q w = part.text.toList) (hclean : Written.Clean w)
    (hcount : w.count .mark = part.params.length) : Carries q w [part] := by
  have h : Carries q ([] ++ (w ++ [])) [part] :=
    .part List.not_mem_nil htext hclean hcount (.frame List.not_mem_nil)
  simpa using h

theorem length_eq (hq : q ∈ Quotes.all) (hw : Carries q w parts) :
    ∀ part ∈ parts, (markerOffsets part.text).length = part.params.length := by
  induction hw with
  | frame => simp
  | part _ htext hclean hcount _ ih =>
      intro p hp
      rcases List.mem_cons.mp hp with rfl | hp
      · rw [Written.markerOffsets_eq hq hclean htext, Written.length_offsets, hcount]
      · exact ih p hp

/-- The text of the row is made of the parts, and its marks are those of the parts. -/
theorem exists_leads (hq : q ∈ Quotes.all) (hw : Carries q w parts) :
    ∃ leads tail, leads.length = parts.length ∧
      Written.chars q w = (assembled leads parts tail).toList ∧
      ∀ start, Written.offsets q start w = partOffsets start (leads.zip parts) := by
  induction hw with
  | @frame w h =>
      refine ⟨[], String.ofList (Written.chars q w), rfl, ?_, ?_⟩
      · simp [assembled, Text.toList_joined_empty]
      · intro start
        rw [Written.offsets_eq_nil h]
        rfl
  | @part lead body rest p ps hlead htext hclean hcount _ ih =>
      obtain ⟨leads, tail, hlen, hchars, hoff⟩ := ih
      refine ⟨String.ofList (Written.chars q lead) :: leads, tail, by simp [hlen], ?_, ?_⟩
      · simp [assembled, Text.toList_joined_empty, hchars, htext]
      · intro start
        have hbody : Written.offsets q (start + (Written.chars q lead).length) body =
            (markerOffsets p.text).map (start + (Written.chars q lead).length + ·) := by
          rw [Written.markerOffsets_eq hq hclean htext, ← Written.offsets_add, Nat.add_zero]
        have hp : (Written.chars q body).length = p.text.length := by
          rw [htext, String.length_toList]
        rw [Written.offsets_append, Written.offsets_append, Written.offsets_eq_nil hlead, hbody,
          hp, hoff]
        simp [partOffsets]

/-- A statement that was written cleanly around its parts has its markers in them. -/
theorem aligned (hq : q ∈ Quotes.all) (hclean : Written.Clean w) (hw : Carries q w parts)
    {sql : String} (hsql : Written.chars q w = sql.toList) :
    Aligned sql (parts.flatMap (·.params)) parts := by
  refine ⟨rfl, hw.length_eq hq, ?_⟩
  obtain ⟨leads, tail, hlen, hchars, hoff⟩ := hw.exists_leads hq
  refine ⟨leads, tail, hlen, String.toList_inj.mp (hsql.symm.trans hchars), ?_⟩
  rw [Written.markerOffsets_eq hq hclean hsql, hoff]

end Carries

end RelationalMapper.Sql
