import RelationalMapper.Proofs.Sql.Words

/-! # Texts and their words

A text that is put together from names and plain texts has the words of its parts, as long as no word
reaches from one part into the next one. -/

namespace RelationalMapper.Sql

/-! ## Rows of fragments -/

namespace Written

/-- No word in front goes on here. -/
def Opens (w : Written) : Prop := ∀ f ∈ w.head?, f.opensApart = true

@[simp] theorem opens_nil : Opens [] := by simp [Opens]

@[simp] theorem opens_cons (f : Fragment) (w : Written) :
    Opens (f :: w) ↔ f.opensApart = true := by simp [Opens]

theorem Opens.append {v w : Written} (hv : v.Opens) (hw : w.Opens) : (v ++ w).Opens := by
  cases v with
  | nil => exact hw
  | cons f v => exact hv

theorem Apart.append {v w : Written} (hv : v.Apart) (hw : w.Apart) (ho : w.Opens) :
    (v ++ w).Apart :=
  List.IsChain.append hv hw fun _ _ g hg => .inr (ho g hg)

/-- Behind a fragment at whose end no word goes on, anything may stand. -/
theorem Apart.cons_of_endsOpen {f : Fragment} (hf : f.endsOpen = true) {w : Written}
    (hw : w.Apart) : Apart (f :: w) := by
  cases w with
  | nil => exact .singleton f
  | cons g w => exact .cons_cons (.inl hf) hw

end Written

/-! ## Texts -/

/-- The text is written cleanly, and these are its words. -/
def Reads (q : Quotes) (text : String) (ws : List Word) : Prop :=
  ∃ w : Written, w.Clean ∧ w.Apart ∧ Written.chars q w = text.toList ∧
    w.flatMap Fragment.words = ws

/-- Such a text may stand behind any other one. -/
def Follows (q : Quotes) (text : String) (ws : List Word) : Prop :=
  ∃ w : Written, w.Clean ∧ w.Apart ∧ w.OpensPlain ∧ w.Opens ∧
    Written.chars q w = text.toList ∧ w.flatMap Fragment.words = ws

section Texts

variable {q : Quotes} {a b text : String} {ws ws' : List Word}

theorem Reads.words_eq (h : Reads q text ws) (hq : q ∈ Quotes.all) : words text = ws := by
  obtain ⟨w, hw, hapart, hc, rfl⟩ := h
  exact Written.words_eq_of_apart hq hw hapart hc

theorem Follows.reads (h : Follows q text ws) : Reads q text ws := by
  obtain ⟨w, hw, hapart, -, -, hc, rfl⟩ := h
  exact ⟨w, hw, hapart, hc, rfl⟩

theorem Reads.append (ha : Reads q a ws) (hb : Follows q b ws') :
    Reads q (a ++ b) (ws ++ ws') := by
  obtain ⟨v, hv, hva, hvc, rfl⟩ := ha
  obtain ⟨w, hw, hwa, hplain, hopens, hwc, rfl⟩ := hb
  exact ⟨v ++ w, hv.append hw hplain, hva.append hwa hopens, by simp [hvc, hwc],
    List.flatMap_append⟩

theorem Follows.append (ha : Follows q a ws) (hb : Follows q b ws') :
    Follows q (a ++ b) (ws ++ ws') := by
  obtain ⟨v, hv, hva, hvp, hvo, hvc, rfl⟩ := ha
  obtain ⟨w, hw, hwa, hwp, hwo, hwc, rfl⟩ := hb
  exact ⟨v ++ w, hv.append hw hwp, hva.append hwa hwo, hvp.append hwp, hvo.append hwo,
    by simp [hvc, hwc], List.flatMap_append⟩

theorem follows_empty (q : Quotes) : Follows q "" [] :=
  ⟨[], trivial, .nil, Written.opensPlain_nil, Written.opens_nil, rfl, rfl⟩

/-- Plain text that no word in front goes on in. -/
theorem follows_plain (q : Quotes) (text : String) (hplain : isPlain text.toList = true)
    (hopens : opensApart text.toList = true) : Follows q text (textWords text.toList) := by
  have hne : text ≠ "" := by
    rintro rfl
    simp [opensApart] at hopens
  exact ⟨[.plain text], (Written.clean_plain ..).mpr ⟨hne, hplain, trivial⟩, .singleton _,
    (Written.opensPlain_cons ..).mpr rfl, (Written.opens_cons ..).mpr hopens,
    by simp [Fragment.chars], by simp [Fragment.words]⟩

/-- A text behind plain text at whose end no word goes on. -/
theorem Reads.exists_behind (h : Reads q text ws) (lead : String)
    (hplain : isPlain lead.toList = true) (hends : endsOpen lead.toList = true) :
    ∃ w : Written, w.head? = some (.plain lead) ∧ w.Clean ∧ w.Apart ∧
      Written.chars q w = (lead ++ text).toList ∧
      w.flatMap Fragment.words = textWords lead.toList ++ ws := by
  obtain ⟨w, hw, hapart, hc, rfl⟩ := h
  have hne : lead ≠ "" := by
    rintro rfl
    simp [endsOpen] at hends
  have hlead : Fragment.endsOpen (.plain lead) = true := hends
  exact ⟨.plain lead :: w, rfl, (Written.clean_plain ..).mpr ⟨hne, hplain, hw⟩,
    .cons_of_endsOpen hlead hapart, by simp [hc, Fragment.chars], rfl⟩

theorem Reads.behind (h : Reads q text ws) (lead : String) (hplain : isPlain lead.toList = true)
    (hends : endsOpen lead.toList = true) :
    Reads q (lead ++ text) (textWords lead.toList ++ ws) := by
  obtain ⟨w, -, hw, hapart, hc, hwords⟩ := h.exists_behind lead hplain hends
  exact ⟨w, hw, hapart, hc, hwords⟩

theorem Reads.following (h : Reads q text ws) (lead : String)
    (hplain : isPlain lead.toList = true) (hopens : opensApart lead.toList = true)
    (hends : endsOpen lead.toList = true) :
    Follows q (lead ++ text) (textWords lead.toList ++ ws) := by
  obtain ⟨w, hhead, hw, hapart, hc, hwords⟩ := h.exists_behind lead hplain hends
  refine ⟨w, hw, hapart, ?_, ?_, hc, hwords⟩
  · rw [Written.OpensPlain, hhead]
    rintro _ ⟨⟩
    rfl
  · rw [Written.Opens, hhead]
    rintro _ ⟨⟩
    exact hopens

end Texts

/-! ## Words that do not occur -/

/-- None of the first words is among the second ones. -/
def Avoids (ks ws : List Word) : Prop := ∀ word ∈ ws, word ∉ ks

section Avoids

variable {ks ks' ws ws' : List Word}

@[simp] theorem avoids_nil (ks : List Word) : Avoids ks [] := by simp [Avoids]

@[simp] theorem avoids_cons {word : Word} :
    Avoids ks (word :: ws) ↔ word ∉ ks ∧ Avoids ks ws := List.forall_mem_cons

@[simp] theorem avoids_append : Avoids ks (ws ++ ws') ↔ Avoids ks ws ∧ Avoids ks ws' :=
  List.forall_mem_append

/-- What avoids some words avoids the first of them. -/
theorem Avoids.left (h : Avoids (ks ++ ks') ws) : Avoids ks ws :=
  fun word hword hks => h word hword (List.mem_append_left ks' hks)

theorem Avoids.right (h : Avoids (ks ++ ks') ws) : Avoids ks' ws :=
  fun word hword hks => h word hword (List.mem_append_right ks hks)

theorem Avoids.intercalate {separator : List Word} {rows : List (List Word)}
    (hseparator : Avoids ks separator) (h : ∀ row ∈ rows, Avoids ks row) :
    Avoids ks (separator.intercalate rows) := by
  intro word hword
  rcases mem_intercalate hword with hword | ⟨row, hrow, hword⟩
  · exact hseparator word hword
  · exact h row hrow word hword

instance (ks ws : List Word) : Decidable (Avoids ks ws) :=
  inferInstanceAs (Decidable (∀ _ ∈ _, _))

end Avoids

/-- The text is written cleanly, and these words do not occur in it. -/
def Omits (q : Quotes) (ks : List Word) (text : String) : Prop :=
  ∃ ws, Reads q text ws ∧ Avoids ks ws

section Omits

variable {q : Quotes} {ks ws : List Word} {a b text : String}

theorem Omits.append (ha : Omits q ks a) (hb : Follows q b ws) (hws : Avoids ks ws) :
    Omits q ks (a ++ b) := by
  obtain ⟨v, hv, havoids⟩ := ha
  exact ⟨v ++ ws, hv.append hb, avoids_append.mpr ⟨havoids, hws⟩⟩

theorem Omits.append_plain (ha : Omits q ks a) (hplain : isPlain b.toList = true)
    (hopens : opensApart b.toList = true) (havoids : Avoids ks (textWords b.toList)) :
    Omits q ks (a ++ b) := ha.append (follows_plain q b hplain hopens) havoids

theorem Omits.behind (h : Omits q ks text) (lead : String) (hplain : isPlain lead.toList = true)
    (hends : endsOpen lead.toList = true) (havoids : Avoids ks (textWords lead.toList)) :
    Omits q ks (lead ++ text) := by
  obtain ⟨ws, hws, hks⟩ := h
  exact ⟨_, hws.behind lead hplain hends, avoids_append.mpr ⟨havoids, hks⟩⟩

theorem Written.apart_joined {separator : String} (hopens : Sql.opensApart separator.toList = true)
    (hends : Sql.endsOpen separator.toList = true) {rows : List Written}
    (h : ∀ w ∈ rows, w.Apart) : Apart (joined separator rows) := by
  induction rows with
  | nil => exact .nil
  | cons v rows ih =>
      have hv := h v List.mem_cons_self
      cases rows with
      | nil => simpa [joined] using hv
      | cons w rows =>
          have hrest := ih fun x hx => h x (List.mem_cons_of_mem v hx)
          have hseparator : Fragment.endsOpen (.plain separator) = true := hends
          rw [joined_cons_cons]
          exact hv.append (.cons_of_endsOpen hseparator hrest) ((opens_cons ..).mpr hopens)

/-- Texts with a separator between each two of them are read one after the other. -/
theorem exists_reads_joined {P : List Word → Prop} {separator : String} (hne : separator ≠ "")
    (hplain : isPlain separator.toList = true) (hopens : opensApart separator.toList = true)
    (hends : endsOpen separator.toList = true) {texts : List String}
    (h : ∀ text ∈ texts, ∃ ws, Reads q text ws ∧ P ws) :
    ∃ rows, Reads q (Text.joined separator texts)
      ((textWords separator.toList).intercalate rows) ∧ ∀ row ∈ rows, P row := by
  have hrows : ∃ rows : List Written, (∀ w ∈ rows, w.Clean) ∧ (∀ w ∈ rows, w.Apart) ∧
      (∀ w ∈ rows, P (w.flatMap Fragment.words)) ∧
      rows.map (Written.chars q) = texts.map String.toList := by
    induction texts with
    | nil => exact ⟨[], by simp, by simp, by simp, rfl⟩
    | cons text texts ih =>
        obtain ⟨_, ⟨w, hw, hapart, hc, rfl⟩, hP⟩ := h text List.mem_cons_self
        obtain ⟨rows, hrows, haparts, hPs, hcs⟩ := ih fun t ht => h t (List.mem_cons_of_mem _ ht)
        exact ⟨w :: rows, by simpa using ⟨hw, hrows⟩, by simpa using ⟨hapart, haparts⟩,
          List.forall_mem_cons.mpr ⟨hP, hPs⟩, by simp [hc, hcs]⟩
  obtain ⟨rows, hrows, haparts, hPs, hcs⟩ := hrows
  refine ⟨rows.map (List.flatMap Fragment.words),
    ⟨Written.joined separator rows, Written.clean_joined hne hplain hrows,
      Written.apart_joined hopens hends haparts, Written.chars_joined q separator rows hcs,
      Written.words_joined separator rows⟩, ?_⟩
  intro row hrow
  obtain ⟨w, hw, rfl⟩ := List.mem_map.mp hrow
  exact hPs w hw

theorem Omits.joined {separator : String} (hne : separator ≠ "")
    (hplain : isPlain separator.toList = true) (hopens : opensApart separator.toList = true)
    (hends : endsOpen separator.toList = true)
    (havoids : Avoids ks (textWords separator.toList)) {texts : List String}
    (h : ∀ text ∈ texts, Omits q ks text) : Omits q ks (Text.joined separator texts) := by
  obtain ⟨rows, hreads, hrows⟩ := exists_reads_joined hne hplain hopens hends h
  exact ⟨_, hreads, havoids.intercalate hrows⟩

end Omits

/-! ## Marks among words -/

theorem not_mark_mem_textWords (text : List Char) : .mark ∉ textWords text := by
  simp [textWords]

theorem count_mark_words (w : Written) :
    (w.flatMap Fragment.words).count .mark = w.count .mark := by
  induction w with
  | nil => rfl
  | cons f w ih =>
      rw [List.flatMap_cons, List.count_append, ih, List.count_cons]
      cases f with
      | plain text => simp [Fragment.words, List.count_eq_zero.mpr (not_mark_mem_textWords _)]
      | name identifier => simp [Fragment.words]
      | mark => simp [Fragment.words, Nat.add_comm]

end RelationalMapper.Sql
