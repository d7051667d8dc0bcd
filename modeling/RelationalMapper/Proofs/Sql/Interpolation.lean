import RelationalMapper.Proofs.Sql.Format

/-! # Statements with arguments put in

A driver with `%s` markers puts the arguments into the text of the statement. What it makes of a
standardized statement are the tokens of the statement as it was, with an argument in the place of
each marker. -/

namespace RelationalMapper.Sql

/-! ## Interpolation -/

/-- Reads a format text from left to right: `%%` becomes a percent sign and each `%s` the next
argument; any other percent sign is refused, and so is a directive when no argument is left. The
arguments that were not needed are handed back. -/
def interpolated? : List Char → List String → Option (List Char × List String)
  | [], args => some ([], args)
  | '%' :: '%' :: rest, args =>
    (interpolated? rest args).map fun (text, unused) => ('%' :: text, unused)
  | '%' :: 's' :: rest, arg :: args =>
    (interpolated? rest args).map fun (text, unused) => (arg.toList ++ text, unused)
  | c :: rest, args =>
    if c = '%' then none
    else (interpolated? rest args).map fun (text, unused) => (c :: text, unused)

/-- The text of tokens, each marker replaced by the next argument as long as there is one. -/
def withArguments : List Token → List String → List Char
  | [], _ => []
  | t :: rest, args =>
    match t.kind, args with
    | .marker, arg :: more => arg.toList ++ withArguments rest more
    | _, _ => t.chars ++ withArguments rest args

theorem interpolated?_cons {c : Char} (hc : c ≠ '%') (rest : List Char) (args : List String) :
    interpolated? (c :: rest) args =
      (interpolated? rest args).map fun (text, unused) => (c :: text, unused) := by
  rw [interpolated?.eq_def]
  split <;> simp_all

/-- A text with its percent signs doubled is put in as it was. -/
theorem interpolated?_doubled_append (s : List Char) {rest text : List Char}
    {args unused : List String} (h : interpolated? rest args = some (text, unused)) :
    interpolated? (Text.doubled '%' s ++ rest) args = some (s ++ text, unused) := by
  induction s with
  | nil => exact h
  | cons c s ih =>
      by_cases hc : c = '%'
      · subst hc
        simp [Text.doubled, interpolated?, ih]
      · rw [Text.doubled, if_neg hc, List.cons_append, interpolated?_cons hc, ih]
        rfl

/-- What stands for a token takes an argument if the token is a marker, and is else the token. -/
theorem interpolated?_restyled_tokens (tokens : List Token) (args : List String)
    (h : args.length = tokens.countP (·.kind = .marker)) :
    interpolated? (tokens.flatMap (restyled ['%', 's'])) args =
      some (withArguments tokens args, []) := by
  induction tokens generalizing args with
  | nil =>
      obtain rfl : args = [] := by simpa using h
      rfl
  | cons t tokens ih =>
      rw [List.flatMap_cons]
      by_cases hk : t.kind = .marker
      · cases args with
        | nil => simp [hk] at h
        | cons arg args =>
            have hrest := ih args (by simpa [hk] using h)
            simp [restyled, hk, withArguments, interpolated?, hrest]
      · have hrest := ih args (by simpa [hk] using h)
        have hw : withArguments (t :: tokens) args = t.chars ++ withArguments tokens args := by
          rw [withArguments.eq_def]
          simp only
          split
          · contradiction
          · rfl
        rw [restyled_of_ne hk, hw]
        exact interpolated?_doubled_append t.chars hrest

/-- Question marks in the places of the markers leave every token as it is. -/
theorem withArguments_questionMarks {tokens : List Token}
    (h : ∀ t ∈ tokens, t.kind = .marker → t.chars = ['?']) (n : Nat) :
    withArguments tokens (List.replicate n questionMark) = tokens.flatMap Token.chars := by
  induction tokens generalizing n with
  | nil => rfl
  | cons t tokens ih =>
      have hrest := ih fun t' ht => h t' (List.mem_cons_of_mem t ht)
      rw [withArguments.eq_def, List.flatMap_cons]
      simp only
      split
      · rename_i hk hargs
        obtain ⟨m, rfl⟩ : ∃ m, n = m + 1 := by
          cases n with
          | zero => simp at hargs
          | succ m => exact ⟨m, rfl⟩
        rw [List.replicate_succ] at hargs
        obtain ⟨rfl, rfl⟩ := List.cons.inj hargs
        rw [hrest m, h t List.mem_cons_self hk]
        rfl
      · rw [hrest n]

/-! ## Standardized statements -/

theorem standardize_directive (sql : String) :
    (standardize "%s" sql).toList = restyle ['%', 's'] sql.toList :=
  Dialect.standardize_of_format (d := .postgres) rfl sql

/-- The arguments for the markers of a statement are all put in, in their order, and nothing else of
the statement changes; question marks give the statement itself. -/
theorem interpolated?_standardize (sql : String) :
    (∀ args : List String, args.length = (tokenize sql).countP (·.kind = .marker) →
      interpolated? (standardize "%s" sql).toList args =
        some (withArguments (tokenize sql) args, [])) ∧
    interpolated? (standardize "%s" sql).toList
        (List.replicate ((tokenize sql).countP (·.kind = .marker)) questionMark) =
      some (sql.toList, []) := by
  have hput : ∀ args : List String, args.length = (tokenize sql).countP (·.kind = .marker) →
      interpolated? (standardize "%s" sql).toList args =
        some (withArguments (tokenize sql) args, []) := by
    intro args h
    rw [standardize_directive]
    exact interpolated?_restyled_tokens _ args h
  have hmarkers : ∀ t ∈ tokenize sql, t.kind = .marker → t.chars = ['?'] := scan_marker sql.toList
  refine ⟨hput, ?_⟩
  rw [hput _ List.length_replicate, withArguments_questionMarks hmarkers, tokenize,
    scan_flatMap_chars]

/-- Percent signs and question marks inside a literal, inside a comment and outside, and a quote at
the end that opens no literal. -/
def unendedStatement : String := "SELECT 7 % ?, 'a%?' /* 5%s? */ FROM t WHERE b = ? AND c = 'd?"

/-- Three arguments take the places of its three markers. -/
theorem interpolated?_standardize_unended :
    ["1", "%s", "?"].length = (tokenize unendedStatement).countP (·.kind = .marker) ∧
      interpolated? (standardize "%s" unendedStatement).toList ["1", "%s", "?"] =
        some ("SELECT 7 % 1, 'a%?' /* 5%s? */ FROM t WHERE b = %s AND c = 'd?".toList, []) := by
  have hcount : ["1", "%s", "?"].length =
      (tokenize unendedStatement).countP (·.kind = .marker) := by decide +kernel
  refine ⟨hcount, ?_⟩
  rw [(interpolated?_standardize unendedStatement).1 _ hcount]
  decide +kernel

end RelationalMapper.Sql
