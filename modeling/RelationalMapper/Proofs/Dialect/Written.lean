import RelationalMapper.Dialect.Write
import RelationalMapper.Proofs.Sql.Marker
import RelationalMapper.Proofs.Sql.Words

/-! # Insertions, as they are read

An insertion is read as its values, in groups of one mark for each column. -/

namespace RelationalMapper

open Sql

namespace Dialect

theorem quotes_mem_all (d : Dialect) : d.quotes ∈ Quotes.all := by
  cases d <;> simp [quotes, Quotes.all]

@[simp] theorem toList_quote (d : Dialect) (identifier : String) :
    (d.quote identifier).toList = d.quotes.quoteChars identifier.toList := by
  simp [quote, Quotes.quote]

/-! ## Lists of names and marks -/

/-- Names between commas. -/
def namesWritten (columns : List String) : Written :=
  Written.joined ", " (columns.map fun column => [.name column])

theorem chars_namesWritten (d : Dialect) (columns : List String) :
    Written.chars d.quotes (namesWritten columns) = (d.columnList columns).toList :=
  Written.chars_joined _ ", " _ (by simp [Fragment.chars, Function.comp_def])

theorem clean_namesWritten (columns : List String) : (namesWritten columns).Clean := by
  refine Written.clean_joined (by decide) (by decide) fun w hw => ?_
  obtain ⟨column, -, rfl⟩ := List.mem_map.mp hw
  simp

theorem endsOpen_namesWritten (columns : List String) :
    ∀ f ∈ namesWritten columns, f.endsOpen = true := by
  refine Written.endsOpen_joined (by decide) fun w hw => ?_
  obtain ⟨column, -, rfl⟩ := List.mem_map.mp hw
  simp [Fragment.endsOpen]

theorem not_mark_mem_namesWritten (columns : List String) : .mark ∉ namesWritten columns := by
  refine Written.not_mark_mem_joined ", " fun w hw => ?_
  obtain ⟨column, -, rfl⟩ := List.mem_map.mp hw
  simp

theorem words_namesWritten {columns : List String} {word : Word}
    (h : word ∈ (namesWritten columns).flatMap Fragment.words) :
    word = .symbol "," ∨ ∃ column, word = .name column := by
  rw [namesWritten, Written.words_joined] at h
  rcases mem_intercalate h with h | ⟨row, hrow, h⟩
  · have hcomma : textWords ", ".toList = [.symbol ","] := by decide
    rw [hcomma, List.mem_singleton] at h
    exact .inl h
  · simp only [List.map_map, List.mem_map, Function.comp_apply] at hrow
    obtain ⟨column, -, rfl⟩ := hrow
    exact .inr ⟨column, by simpa [Fragment.words] using h⟩

/-- A group of marks in parentheses. -/
def groupWritten (count : Nat) : Written := .plain "(" :: (Written.markers count ++ [.plain ")"])

theorem chars_groupWritten (q : Quotes) (count : Nat) :
    Written.chars q (groupWritten count) = (rowGroup count).toList := by
  simp [groupWritten, rowGroup, Fragment.chars, Written.chars_markers]

theorem clean_groupWritten (count : Nat) : (groupWritten count).Clean :=
  (Written.clean_plain ..).mpr ⟨by decide, by decide,
    (Written.clean_markers count).append (by simp; decide) (by simp [Fragment.isName])⟩

theorem endsOpen_markers (count : Nat) : ∀ f ∈ Written.markers count, f.endsOpen = true := by
  refine Written.endsOpen_joined (by decide) fun w hw => ?_
  rw [List.eq_of_mem_replicate hw]
  simp [Fragment.endsOpen]

theorem endsOpen_groupWritten (count : Nat) : ∀ f ∈ groupWritten count, f.endsOpen = true := by
  intro f hf
  simp only [groupWritten, List.mem_cons, List.mem_append, List.not_mem_nil, or_false] at hf
  rcases hf with rfl | hf | rfl
  · decide
  · exact endsOpen_markers count f hf
  · decide

theorem count_mark_groupWritten (count : Nat) : (groupWritten count).count .mark = count := by
  simp [groupWritten, Written.count_mark_markers]

/-- Marks between commas. -/
def markWords (count : Nat) : List Word :=
  [.symbol ","].intercalate (List.replicate count [.mark])

theorem words_markers (count : Nat) :
    (Written.markers count).flatMap Fragment.words = markWords count := by
  rw [Written.markers, Written.words_joined]
  simp only [List.map_replicate, List.flatMap_cons, List.flatMap_nil, List.append_nil]
  congr 1

theorem mem_markWords {count : Nat} {word : Word} (h : word ∈ markWords count) :
    word = .symbol "," ∨ word = .mark := by
  rcases mem_intercalate h with h | ⟨row, hrow, h⟩
  · exact .inl (by simpa using h)
  · rw [List.eq_of_mem_replicate hrow] at h
    exact .inr (by simpa using h)

theorem markWords_succ_succ (n : Nat) :
    markWords (n + 2) = .mark :: .symbol "," :: markWords (n + 1) := by
  simp [markWords, List.replicate_succ, List.intercalate_cons_cons]

theorem count_mark_markWords (count : Nat) : (markWords count).count .mark = count := by
  induction count with
  | zero => rfl
  | succ n ih =>
      cases n with
      | zero => rfl
      | succ n => simp [markWords_succ_succ, ih]

theorem words_groupWritten (count : Nat) :
    (groupWritten count).flatMap Fragment.words =
      .symbol "(" :: (markWords count ++ [.symbol ")"]) := by
  rw [groupWritten, List.flatMap_cons, List.flatMap_append, words_markers]
  rfl

/-! ## Insertions -/

def returningWritten (columns : List String) : Written :=
  if columns = [] then [] else .plain " RETURNING " :: namesWritten columns

def insertionWritten (s : Insertion) : Written :=
  [.plain "INSERT INTO ", .name s.table, .plain " ("] ++ (namesWritten s.columns
    ++ (.plain ") VALUES " :: (Written.joined ", "
      (List.replicate s.rows (groupWritten s.columns.length)) ++ returningWritten s.returning)))

theorem chars_returningWritten (d : Dialect) (columns : List String) :
    Written.chars d.quotes (returningWritten columns) = (d.returningClause columns).toList := by
  unfold returningWritten returningClause
  split
  · rfl
  · simp [Fragment.chars, chars_namesWritten]

theorem chars_insertionWritten (d : Dialect) (s : Insertion) :
    Written.chars d.quotes (insertionWritten s) = (d.renderInsertion s).toList := by
  have hgroups : Written.chars d.quotes
      (Written.joined ", " (List.replicate s.rows (groupWritten s.columns.length))) =
      (Text.joined ", " (List.replicate s.rows (rowGroup s.columns.length))).toList :=
    Written.chars_joined d.quotes ", " _ (by simp [chars_groupWritten])
  unfold insertionWritten renderInsertion
  simp only [Written.chars_append, Written.chars_cons, Written.chars_nil, Fragment.chars,
    chars_namesWritten, chars_returningWritten, hgroups, List.append_assoc, List.nil_append]
  simp only [String.toList_append, toList_quote, List.append_assoc]

theorem opensPlain_returningWritten (columns : List String) :
    (returningWritten columns).OpensPlain := by
  unfold returningWritten
  split <;> simp [Fragment.isName]

theorem clean_returningWritten (columns : List String) : (returningWritten columns).Clean := by
  unfold returningWritten
  split
  · trivial
  · exact (Written.clean_plain ..).mpr ⟨by decide, by decide, clean_namesWritten columns⟩

theorem clean_groups (rows count : Nat) :
    (Written.joined ", " (List.replicate rows (groupWritten count))).Clean :=
  Written.clean_joined (by decide) (by decide) fun w hw => by
    rw [List.eq_of_mem_replicate hw]
    exact clean_groupWritten count

theorem clean_insertionWritten (s : Insertion) : (insertionWritten s).Clean := by
  have hvalues := (clean_groups s.rows s.columns.length).append
    (clean_returningWritten s.returning) (opensPlain_returningWritten _)
  have hcolumns := (clean_namesWritten s.columns).append
    ((Written.clean_plain ") VALUES " _).mpr ⟨by decide, by decide, hvalues⟩)
    (by simp [Fragment.isName])
  exact (Written.clean_plain ..).mpr ⟨by decide, by decide,
    by simp [Fragment.isName], (Written.clean_plain ..).mpr ⟨by decide, by decide, hcolumns⟩⟩

theorem endsOpen_insertionWritten (s : Insertion) :
    ∀ f ∈ insertionWritten s, f.endsOpen = true := by
  have hgroups : ∀ f ∈ Written.joined ", " (List.replicate s.rows (groupWritten s.columns.length)),
      f.endsOpen = true := by
    refine Written.endsOpen_joined (by decide) fun w hw => ?_
    rw [List.eq_of_mem_replicate hw]
    exact endsOpen_groupWritten _
  have hreturning : ∀ f ∈ returningWritten s.returning, f.endsOpen = true := by
    unfold returningWritten
    split
    · simp
    · intro f hf
      rcases List.mem_cons.mp hf with rfl | hf
      · decide
      · exact endsOpen_namesWritten _ f hf
  intro f hf
  simp only [insertionWritten, List.mem_append, List.mem_cons, List.not_mem_nil, or_false] at hf
  rcases hf with (rfl | rfl | rfl) | hf | rfl | hf | hf
  · decide
  · rfl
  · decide
  · exact endsOpen_namesWritten _ f hf
  · decide
  · exact hgroups f hf
  · exact hreturning f hf

/-- The words in front of the values. -/
def insertionHead (s : Insertion) : List Word :=
  [.symbol "INSERT", .symbol "INTO", .name s.table, .symbol "("]
    ++ ((namesWritten s.columns).flatMap Fragment.words ++ [.symbol ")"])

theorem mem_insertionHead {s : Insertion} {word : Word} (h : word ∈ insertionHead s) :
    word ∈ ["INSERT", "INTO", "(", ",", ")"].map Word.symbol ∨ ∃ column, word = .name column := by
  simp only [insertionHead, List.mem_append, List.mem_cons, List.not_mem_nil, or_false] at h
  rcases h with (rfl | rfl | rfl | rfl) | h | rfl
  all_goals try simp
  rcases words_namesWritten h with rfl | ⟨column, rfl⟩ <;> simp

theorem words_renderInsertion (d : Dialect) (s : Insertion) :
    Sql.words (d.renderInsertion s) = insertionHead s ++ (.symbol "VALUES" ::
      ([.symbol ","].intercalate (List.replicate s.rows
          (.symbol "(" :: (markWords s.columns.length ++ [.symbol ")"])))
        ++ (returningWritten s.returning).flatMap Fragment.words)) := by
  have hinto : textWords "INSERT INTO ".toList = [.symbol "INSERT", .symbol "INTO"] := by decide
  have hopen : textWords " (".toList = [.symbol "("] := by decide
  have hvalues : textWords ") VALUES ".toList = [.symbol ")", .symbol "VALUES"] := by decide
  have hcomma : textWords ", ".toList = [.symbol ","] := by decide
  rw [Written.words_eq d.quotes_mem_all (clean_insertionWritten s) (endsOpen_insertionWritten s)
    (chars_insertionWritten d s)]
  simp only [insertionWritten, insertionHead, List.flatMap_append, List.flatMap_cons,
    List.flatMap_nil, Fragment.words, hinto, hopen, hvalues, Written.words_joined, hcomma,
    List.map_replicate, words_groupWritten]
  simp

theorem beginsWith_renderInsertion (d : Dialect) (s : Insertion) :
    beginsWith "INSERT" (d.renderInsertion s) = true := by
  simp [beginsWith, words_renderInsertion, insertionHead]

theorem groupMarks_groups (rows count : Nat) {rest : List Word} (hrest : .symbol "(" ∉ rest) :
    groupMarks ([.symbol ","].intercalate (List.replicate rows
      (.symbol "(" :: (markWords count ++ [.symbol ")"]))) ++ rest) = List.replicate rows count := by
  have hopen : Word.symbol "(" ∉ markWords count := fun h => by
    rcases mem_markWords h with h | h <;> simp at h
  have hclose : Word.symbol ")" ∉ markWords count := fun h => by
    rcases mem_markWords h with h | h <;> simp at h
  have hend : groupMarks rest = [] := by simpa using groupMarks_append hrest []
  induction rows with
  | zero => exact hend
  | succ n ih =>
      cases n with
      | zero =>
          have := groupMarks_group hopen hclose rest
          simpa [hend, count_mark_markWords] using this
      | succ n =>
          rw [List.replicate_succ, List.replicate_succ, List.intercalate_cons_cons,
            ← List.replicate_succ]
          simp only [List.append_assoc, List.cons_append, List.nil_append]
          rw [groupMarks_group hopen hclose, groupMarks_cons (by simp), ih, count_mark_markWords,
            ← List.replicate_succ]

/-- An insertion gives one mark for each column in each of its rows. -/
theorem valueGroups_renderInsertion (d : Dialect) (s : Insertion) :
    valueGroups (d.renderInsertion s) = List.replicate s.rows s.columns.length := by
  have hhead : ∀ word ∈ insertionHead s, word ≠ .symbol "VALUES" := by
    rintro word hword rfl
    simpa using mem_insertionHead hword
  have hreturning : Word.symbol "(" ∉ (returningWritten s.returning).flatMap Fragment.words := by
    have hword : textWords " RETURNING ".toList = [.symbol "RETURNING"] := by decide
    unfold returningWritten
    split
    · simp
    · rw [List.flatMap_cons, Fragment.words, hword]
      intro h
      rcases List.mem_append.mp h with h | h
      · simp at h
      · rcases words_namesWritten h with h | ⟨column, h⟩ <;> simp at h
  rw [valueGroups, words_renderInsertion, List.dropWhile_append_of_pos (by simpa using hhead),
    List.dropWhile_cons_of_neg (by simp), groupMarks_cons (by simp)]
  exact groupMarks_groups s.rows s.columns.length hreturning

/-- An insertion has as many markers as values. -/
theorem countP_marker_renderInsertion (d : Dialect) (s : Insertion) :
    (tokenize (d.renderInsertion s)).countP (·.kind = .marker) = s.rows * s.columns.length := by
  have hreturning : (returningWritten s.returning).count .mark = 0 := by
    unfold returningWritten
    split
    · rfl
    · simp [List.count_eq_zero, not_mark_mem_namesWritten]
  have hcolumns : (namesWritten s.columns).count .mark = 0 :=
    List.count_eq_zero.mpr (not_mark_mem_namesWritten _)
  rw [Written.countP_marker_eq d.quotes_mem_all (clean_insertionWritten s)
    (chars_insertionWritten d s)]
  simp [insertionWritten, hreturning, hcolumns, Written.count_mark_joined,
    count_mark_groupWritten]

end Dialect

end RelationalMapper
