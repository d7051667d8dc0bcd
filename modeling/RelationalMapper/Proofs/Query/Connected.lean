import RelationalMapper.Proofs.Query.Script
import RelationalMapper.Text.Blank

/-! # Where AND is put in, told by the text

Whether a test needs AND in front of it can be told by the last characters of the text so far: only an
opening parenthesis and the connectives end in a way that lets a test follow. No column is mistaken for
a connective, whatever its name, since it ends with a quotation mark. -/

namespace RelationalMapper

namespace Text

/-- The ends that let a test follow. -/
def openEnds : List String := ["(", "AND", "OR"]

/-- Whether AND is needed behind a text, told by how it ends without the blanks. -/
def needsAnd (text : String) : Bool :=
  text ≠ "" && !openEnds.any fun ending => ending.toList.isSuffixOf (trimChars text.toList)

/-! ## Ends of texts -/

/-- What has no blanks at its ends stays at the end of a trimmed text. -/
theorem suffix_trimBy {blank : Char → Bool} {word blanks : List Char} (front : List Char)
    (hne : word ≠ []) (hfirst : ∀ c ∈ word.head?, blank c = false)
    (hlast : ∀ c ∈ word.getLast?, blank c = false) (hblanks : ∀ c ∈ blanks, blank c = true) :
    word <:+ trimBy blank (front ++ (word ++ blanks)) := by
  have hleft : ∃ rest, (front ++ (word ++ blanks)).dropWhile blank = rest ++ (word ++ blanks) := by
    obtain ⟨c, tail, rfl⟩ := List.exists_cons_of_ne_nil hne
    have hword : (c :: tail ++ blanks).dropWhile blank = c :: tail ++ blanks :=
      List.dropWhile_cons_of_neg (by simp [hfirst c rfl])
    rw [List.dropWhile_append]
    split
    · exact ⟨[], hword⟩
    · exact ⟨_, rfl⟩
  obtain ⟨rest, hrest⟩ := hleft
  obtain ⟨init, c, rfl⟩ := (List.eq_nil_or_concat' word).resolve_left hne
  have hc : blank c = false := hlast c (by simp)
  have hreverse : (rest ++ (init ++ [c] ++ blanks)).reverse =
      blanks.reverse ++ c :: (init.reverse ++ rest.reverse) := by simp
  rw [trimBy, hrest, hreverse, List.dropWhile_append_of_pos (by simpa using hblanks),
    List.dropWhile_cons_of_neg (by simp [hc])]
  exact ⟨rest, by simp⟩

/-- Behind one of the endings a test may follow, with blanks between them or without. -/
theorem needsAnd_of_ending {ending blanks : String} (front : String)
    (hending : ending ∈ openEnds) (hblanks : ∀ c ∈ blanks.toList, isBlank c = true) :
    needsAnd (front ++ (ending ++ blanks)) = false := by
  obtain ⟨hne, hdark⟩ : ending.toList ≠ [] ∧ ∀ c ∈ ending.toList, isBlank c = false := by
    simp only [openEnds, List.mem_cons, List.not_mem_nil, or_false] at hending
    rcases hending with rfl | rfl | rfl <;> simp [isBlank, blankRanges]
  have hsuffix : ending.toList <:+ trimChars (front ++ (ending ++ blanks)).toList := by
    rw [String.toList_append, String.toList_append]
    exact suffix_trimBy front.toList hne (fun c hc => hdark c (List.mem_of_mem_head? hc))
      (fun c hc => hdark c (List.mem_of_mem_getLast? hc)) hblanks
  have hany : openEnds.any (fun ending' =>
      ending'.toList.isSuffixOf (trimChars (front ++ (ending ++ blanks)).toList)) = true :=
    List.any_eq_true.mpr ⟨ending, hending, List.isSuffixOf_iff_suffix.mpr hsuffix⟩
  rw [needsAnd, hany]
  simp

/-- The text ends with a character that is neither blank nor the end of what lets a test follow. -/
def EndsTest (text : String) : Prop :=
  ∃ front c, text.toList = front ++ [c] ∧ isBlank c = false ∧ c ∉ ['(', 'D', 'R']

theorem EndsTest.append {text : String} (h : EndsTest text) (front : String) :
    EndsTest (front ++ text) := by
  obtain ⟨init, c, htext, hc⟩ := h
  exact ⟨front.toList ++ init, c, by simp [htext], hc⟩

theorem EndsTest.needsAnd {text : String} (h : EndsTest text) : needsAnd text = true := by
  obtain ⟨front, c, htext, hblank, hc⟩ := h
  have hne : text ≠ "" := by
    rintro rfl
    simp at htext
  obtain ⟨rest, hrest⟩ : [c] <:+ trimChars text.toList := by
    have hsuffix : [c] <:+ trimBy isBlank (front ++ ([c] ++ [])) := suffix_trimBy front
      (List.cons_ne_nil c []) (by simpa using hblank) (by simpa using hblank) (by simp)
    rwa [List.append_nil, ← htext] at hsuffix
  have hnone : openEnds.any (fun ending =>
      ending.toList.isSuffixOf (trimChars text.toList)) = false := by
    have hends {ending : List Char} (h : ending.isSuffixOf (trimChars text.toList) = true) :
        ∀ last ∈ ending.getLast?, last = c := by
      obtain ⟨before, hbefore⟩ := List.isSuffixOf_iff_suffix.mp h
      intro last hlast
      have hboth : (before ++ ending).getLast? = (rest ++ [c]).getLast? := by
        rw [hbefore, hrest]
      rw [List.getLast?_concat, List.getLast?_append, hlast] at hboth
      exact Option.some.inj hboth
    rw [List.any_eq_false]
    intro ending hending hsuffix
    simp only [openEnds, List.mem_cons, List.not_mem_nil, or_false] at hending
    rcases hending with rfl | rfl | rfl <;>
      exact hc (by rw [← hends hsuffix _ rfl]; decide)
  rw [Text.needsAnd, hnone]
  simpa using hne

end Text

/-! ## Ends of conditions -/

open Text

theorem Dialect.endsTest_quote (d : Dialect) (identifier : String) :
    EndsTest (d.quote identifier) := by
  refine ⟨d.quotes.opening :: Text.doubled d.quotes.closing identifier.toList, d.quotes.closing,
    ?_, ?_⟩
  · rw [quote, Sql.Quotes.quote, String.toList_ofList]
    rfl
  · cases d <;> decide

theorem Dialect.endsTest_columnText (d : Dialect) (c : ColumnRef) : EndsTest (d.columnText c) := by
  unfold columnText
  split
  · exact (d.endsTest_quote _).append _
  · exact d.endsTest_quote _

theorem Test.endsTest_text (d : Dialect) (t : Test) : EndsTest (t.text d) := by
  have hplain (text : String) (c : Char) (htext : text.toList.getLast? = some c)
      (hc : isBlank c = false ∧ c ∉ ['(', 'D', 'R']) : EndsTest text := by
    obtain ⟨init, hinit⟩ := List.getLast?_eq_some_iff.mp htext
    exact ⟨init, c, hinit, hc⟩
  cases t with
  | compare column op value => exact (hplain Sql.questionMark '?' rfl (by decide)).append _
  | isNull column => exact (hplain " IS NULL" 'L' (by decide) (by decide)).append _
  | isNotNull column => exact (hplain " IS NOT NULL" 'L' (by decide) (by decide)).append _
  | compareNull column op => exact (hplain " NULL" 'L' (by decide) (by decide)).append _
  | among column values => exact (hplain ")" ')' (by decide) (by decide)).append _

theorem ColumnTest.endsTest_text (d : Dialect) (t : ColumnTest) : EndsTest (t.text d) :=
  (d.endsTest_columnText t.right).append _

namespace Condition

variable {τ : Type} {render : τ → String}

/-- The text of a condition tells what its last piece does. -/
theorem needsAnd_text (h : ∀ t, EndsTest (render t)) (c : Condition τ) :
    Text.needsAnd (c.text render) = c.needsAnd := by
  rcases List.eq_nil_or_concat' c with rfl | ⟨front, piece, rfl⟩
  · rfl
  · rw [needsAnd_concat, text_append, text_cons]
    have hnone : text render [] = "" := rfl
    rw [hnone, String.append_empty]
    cases piece with
    | test t => exact ((h t).append _).needsAnd
    | closing => exact (EndsTest.append ⟨[], ')', by simp [Piece.text], by decide, by decide⟩ _).needsAnd
    | opening =>
        have htext : text render front ++ "(" = text render front ++ ("(" ++ "") := by simp
        rw [Piece.text, htext]
        exact needsAnd_of_ending _ (by simp [openEnds]) (by simp)
    | and =>
        have htext : text render front ++ " AND " =
            (text render front ++ " ") ++ ("AND" ++ " ") := by
          rw [String.append_assoc]
          rfl
        rw [Piece.text, htext]
        exact needsAnd_of_ending _ (by simp [openEnds]) (by simp [isBlank, blankRanges])
    | or =>
        have htext : text render front ++ " OR " =
            (text render front ++ " ") ++ ("OR" ++ " ") := by
          rw [String.append_assoc]
          rfl
        rw [Piece.text, htext]
        exact needsAnd_of_ending _ (by simp [openEnds]) (by simp [isBlank, blankRanges])

/-- The text in front of a test decides whether AND is written between them. -/
theorem text_addTest (c : Condition τ) (h : ∀ t, EndsTest (render t)) (t : τ) :
    (c.addTest t).text render =
      (if Text.needsAnd (c.text render) then c.text render ++ " AND " else c.text render) ++
        render t := by
  have hpiece (p : Piece τ) : text render [p] = p.text render := by
    rw [text_cons]
    exact String.append_empty
  rw [needsAnd_text h, addTest, text_append, hpiece, connected]
  split
  · rw [text_append, hpiece]
    rfl
  · rfl

end Condition

namespace Query

/-- A test of a filter is written behind AND if the text of the condition ends in need of it. -/
theorem conditionText_addTest (q : Query) (t : Test) : (q.addTest t).conditionText =
    (if Text.needsAnd q.conditionText then q.conditionText ++ " AND " else q.conditionText) ++
      t.text q.dialect :=
  q.condition.text_addTest (Test.endsTest_text q.dialect) t

/-- So is a test of a join, by the text of its own condition. -/
theorem text_onStep {q : Query} {joined : Source} {c c' : Condition ColumnTest} {t : JoinTest}
    (h : q.onStep joined c (.test t) = .ok c') :
    ∃ column, q.column t.entity t.left = .ok column ∧
      c'.text (ColumnTest.text q.dialect) =
        (if Text.needsAnd (c.text (ColumnTest.text q.dialect)) then
            c.text (ColumnTest.text q.dialect) ++ " AND "
          else c.text (ColumnTest.text q.dialect)) ++
        ColumnTest.text q.dialect ⟨column, t.op, joined.column t.right⟩ := by
  obtain ⟨column, hcolumn, h⟩ := bind_eq_ok.mp h
  rw [← Except.ok.inj h]
  exact ⟨column, hcolumn, c.text_addTest (ColumnTest.endsTest_text q.dialect) _⟩

end Query

end RelationalMapper
