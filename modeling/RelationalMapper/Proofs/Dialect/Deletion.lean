import RelationalMapper.Proofs.Dialect.Written
import RelationalMapper.Proofs.Sql.Deletion

/-! # Deletions, as they are read

A deletion by keys takes the rows whose keys are among the ones that are bound: one after the other
where there is one column, in groups of one for each column otherwise. -/

namespace RelationalMapper

open Sql

namespace Dialect

/-! ## How deletions are written -/

/-- An equality with a mark for each column. -/
def equalitiesWritten (columns : List String) : Written :=
  Written.joined " AND " (columns.map fun column => [.name column, .plain " = ", .mark])

def choiceWritten : RowChoice → Written
  | .byKey columns => equalitiesWritten columns
  | .oneOf column count =>
    .name column :: .plain " IN (" :: (Written.markers count ++ [.plain ")"])
  | .anyOf columns count => Written.joined " OR "
    (List.replicate count (.plain "(" :: (equalitiesWritten columns ++ [.plain ")"])))

def deletionWritten (s : Deletion) : Written :=
  .plain "DELETE FROM " :: .name s.table :: .plain " WHERE " :: choiceWritten s.rows

section Written

variable (d : Dialect) (columns : List String) (rows : RowChoice) (s : Deletion)

theorem chars_equalitiesWritten :
    Written.chars d.quotes (equalitiesWritten columns) = (d.keyCondition columns).toList :=
  Written.chars_joined _ " AND " _
    (by simp [bindings, Fragment.chars, questionMark, Function.comp_def])

theorem clean_equalitiesWritten : (equalitiesWritten columns).Clean := by
  refine Written.clean_joined (by decide) (by decide) fun w hw => ?_
  obtain ⟨column, -, rfl⟩ := List.mem_map.mp hw
  simp [Fragment.isName]
  decide

theorem endsOpen_equalitiesWritten : ∀ f ∈ equalitiesWritten columns, f.endsOpen = true := by
  refine Written.endsOpen_joined (by decide) fun w hw => ?_
  obtain ⟨column, -, rfl⟩ := List.mem_map.mp hw
  intro f hf
  simp only [List.mem_cons, List.not_mem_nil, or_false] at hf
  rcases hf with rfl | rfl | rfl <;> rfl

theorem chars_choiceWritten :
    Written.chars d.quotes (choiceWritten rows) = (d.renderChoice rows).toList := by
  cases rows with
  | byKey columns => exact chars_equalitiesWritten d columns
  | oneOf column count => simp [choiceWritten, renderChoice, Fragment.chars, Written.chars_markers]
  | anyOf columns count =>
      exact Written.chars_joined _ " OR " _
        (by simp [Fragment.chars, chars_equalitiesWritten])

theorem clean_choiceWritten : (choiceWritten rows).Clean := by
  cases rows with
  | byKey columns => exact clean_equalitiesWritten columns
  | oneOf column count =>
      refine ⟨by simp [Fragment.isName], by decide, by decide, ?_⟩
      exact (Written.clean_markers count).append (by simp; decide) (by simp [Fragment.isName])
  | anyOf columns count =>
      refine Written.clean_joined (by decide) (by decide) fun w hw => ?_
      rw [List.eq_of_mem_replicate hw]
      exact (Written.clean_plain ..).mpr ⟨by decide, by decide,
        (clean_equalitiesWritten columns).append (by simp; decide) (by simp [Fragment.isName])⟩

theorem endsOpen_choiceWritten : ∀ f ∈ choiceWritten rows, f.endsOpen = true := by
  cases rows with
  | byKey columns => exact endsOpen_equalitiesWritten columns
  | oneOf column count =>
      intro f hf
      simp only [choiceWritten, List.mem_cons, List.mem_append, List.not_mem_nil, or_false] at hf
      rcases hf with rfl | rfl | hf | rfl
      · rfl
      · decide
      · exact endsOpen_markers count f hf
      · decide
  | anyOf columns count =>
      refine Written.endsOpen_joined (by decide) fun w hw => ?_
      rw [List.eq_of_mem_replicate hw]
      intro f hf
      simp only [List.mem_cons, List.mem_append, List.not_mem_nil, or_false] at hf
      rcases hf with rfl | hf | rfl
      · decide
      · exact endsOpen_equalitiesWritten columns f hf
      · decide

theorem words_renderDeletion :
    Sql.words (d.renderDeletion s) =
      .symbol "DELETE" :: .symbol "FROM" :: .name s.table :: .symbol "WHERE" ::
        (choiceWritten s.rows).flatMap Fragment.words := by
  have hchars : Written.chars d.quotes (deletionWritten s) = (d.renderDeletion s).toList := by
    simp [deletionWritten, renderDeletion, Fragment.chars, chars_choiceWritten]
  have hclean : (deletionWritten s).Clean :=
    ⟨by decide, by decide, by simp [Fragment.isName], by decide, by decide,
      clean_choiceWritten s.rows⟩
  have hopen : ∀ f ∈ deletionWritten s, f.endsOpen = true := by
    intro f hf
    simp only [deletionWritten, List.mem_cons] at hf
    rcases hf with rfl | rfl | rfl | hf
    · decide
    · rfl
    · decide
    · exact endsOpen_choiceWritten s.rows f hf
  have hdelete : textWords "DELETE FROM ".toList = [.symbol "DELETE", .symbol "FROM"] := by decide
  have hwhere : textWords " WHERE ".toList = [.symbol "WHERE"] := by decide
  rw [Written.words_eq d.quotes_mem_all hclean hopen hchars]
  simp only [deletionWritten, List.flatMap_cons, Fragment.words, hdelete, hwhere]
  rfl

theorem beginsWith_renderDeletion : beginsWith "DELETE" (d.renderDeletion s) = true := by
  simp [beginsWith, words_renderDeletion]

end Written

/-! ## How deletions are read -/

theorem deletionOf?_renderDeletion {d : Dialect} {table : String} {rows : RowChoice}
    {params : List Value} {terms : List Term} {choice : Choice}
    (hfilled : filled ((choiceWritten rows).flatMap Fragment.words) params = some terms)
    (hchoice : choice? terms = some choice) :
    deletionOf? (d.renderDeletion { table, rows }) params = some (table, choice) := by
  have hhead : filled [.symbol "DELETE", .symbol "FROM", .name table, .symbol "WHERE"] [] =
      some [.word (.symbol "DELETE"), .word (.symbol "FROM"), .word (.name table),
        .word (.symbol "WHERE")] := by
    simp [filled]
  have hall := filled_append hhead hfilled
  have hwords := d.words_renderDeletion { table, rows }
  rw [deletionOf?, hwords]
  simp only [List.nil_append, List.cons_append] at hall
  rw [hall]
  simp [deletion?, hchoice]

/-- The values of a list stand between its commas. -/
theorem filled_markWords (values : List Value) :
    filled (markWords values.length) values = some (listTerms values) := by
  have hrow : ∀ v ∈ values, filled [.mark] [v] = some [.value v] := fun v _ => by
    simp [filled]
  have hall := filled_intercalate (show Word.symbol "," ≠ .mark by simp) hrow
  rw [List.flatMap_singleton', List.map_const'] at hall
  exact hall

/-- One column, and a mark for each of its values. -/
theorem deletionOf?_oneOf (d : Dialect) (table column : String) {values : List Value}
    (h : values ≠ []) :
    deletionOf? (d.renderDeletion { table, rows := .oneOf column values.length }) values =
      some (table, [[⟨column, values⟩]]) := by
  refine deletionOf?_renderDeletion ?_ (choice?_among column h)
  have hin : textWords " IN (".toList = [.symbol "IN", .symbol "("] := by decide
  have hclose : textWords ")".toList = [.symbol ")"] := by decide
  have hhead : filled [.name column, .symbol "IN", .symbol "("] [] =
      some [.word (.name column), .word (.symbol "IN"), .word (.symbol "(")] := by
    simp [filled]
  have hend : filled [.symbol ")"] [] = some [.word (.symbol ")")] := by simp [filled]
  have hall := filled_append hhead (filled_append (filled_markWords values) hend)
  rw [List.nil_append, List.append_nil] at hall
  simp only [choiceWritten, List.flatMap_cons, List.flatMap_append, List.flatMap_nil,
    Fragment.words, hin, hclose, words_markers]
  exact hall

theorem words_equalitiesWritten (columns : List String) :
    (equalitiesWritten columns).flatMap Fragment.words =
      [.symbol "AND"].intercalate (columns.map fun column => [.name column, .symbol "=", .mark]) := by
  have hand : textWords " AND ".toList = [.symbol "AND"] := by decide
  have hequals : textWords " = ".toList = [.symbol "="] := by decide
  rw [equalitiesWritten, Written.words_joined, hand, List.map_map]
  simp only [Function.comp_def, List.flatMap_cons, List.flatMap_nil, Fragment.words, hequals]
  rfl

/-- The values of a key stand in the group for it, each behind its column. -/
theorem filled_group {columns : List String} {key : List Value}
    (h : key.length = columns.length) :
    filled (.symbol "(" :: ([.symbol "AND"].intercalate
        (columns.map fun column => [.name column, .symbol "=", .mark]) ++ [.symbol ")"])) key =
      some (groupTerms (columns.zip key)) := by
  have hopen : filled [.symbol "("] [] = some [.word (.symbol "(")] := by simp [filled]
  have hclose : filled [.symbol ")"] [] = some [.word (.symbol ")")] := by simp [filled]
  have hrow : ∀ test ∈ columns.zip key,
      filled [.name test.1, .symbol "=", .mark] [test.2] = some (testTerms test) := by
    intro test _
    simp [filled, testTerms]
  have hinside := filled_intercalate (show Word.symbol "AND" ≠ .mark by simp) hrow
  have hcolumns : (columns.zip key).map (fun test => [Word.name test.1, .symbol "=", .mark]) =
      columns.map fun column => [.name column, .symbol "=", .mark] := by
    have hfirst : (columns.zip key).map (·.1) = columns := List.map_fst_zip (by omega)
    conv => rhs; rw [← hfirst, List.map_map]
    rfl
  have hvalues : (columns.zip key).flatMap (fun test => [test.2]) = key := by
    have hsecond : (columns.zip key).map (·.2) = key := List.map_snd_zip (by omega)
    conv => rhs; rw [← hsecond, ← List.flatMap_singleton' ((columns.zip key).map _),
      List.flatMap_map]
  rw [hcolumns, hvalues] at hinside
  have hall := filled_append hopen (filled_append hinside hclose)
  rw [List.nil_append, List.append_nil] at hall
  exact hall

/-- Several columns, and a group of marks for each of the keys. -/
theorem deletionOf?_anyOf (d : Dialect) (table : String) {columns : List String}
    {keys : List (List Value)} (hcolumns : columns ≠ []) (hkeys : keys ≠ [])
    (hlength : ∀ key ∈ keys, key.length = columns.length) :
    deletionOf? (d.renderDeletion { table, rows := .anyOf columns keys.length }) keys.flatten =
      some (table, keys.map fun key =>
        (columns.zip key).map fun test => ⟨test.1, [test.2]⟩) := by
  have hor : textWords " OR ".toList = [.symbol "OR"] := by decide
  have hopen : textWords "(".toList = [.symbol "("] := by decide
  have hclose : textWords ")".toList = [.symbol ")"] := by decide
  have hgroups : ∀ tests ∈ keys.map columns.zip, tests ≠ [] := by
    intro tests htests hempty
    obtain ⟨key, hkey, rfl⟩ := List.mem_map.mp htests
    rcases List.zip_eq_nil_iff.mp hempty with h | h
    · exact hcolumns h
    · have := hlength key hkey
      rw [h] at this
      exact hcolumns (List.length_eq_zero_iff.mp this.symm)
  have hread := choice?_groups (by simpa using hkeys) hgroups
  rw [List.map_map, List.map_map] at hread
  refine deletionOf?_renderDeletion ?_ hread
  have hfilled := filled_intercalate (show Word.symbol "OR" ≠ .mark by simp)
    fun key hkey => filled_group (hlength key hkey)
  rw [List.map_const', List.flatMap_id'] at hfilled
  simp only [choiceWritten, Written.words_joined, hor, List.map_replicate, List.flatMap_cons,
    List.flatMap_append, List.flatMap_nil, Fragment.words, hopen, hclose,
    words_equalitiesWritten]
  exact hfilled

end Dialect

end RelationalMapper
