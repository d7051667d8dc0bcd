import RelationalMapper.Proofs.Dialect.Written
import RelationalMapper.Proofs.Sql.Reads

/-! # Updates, as they are read

An update assigns columns between its table and its condition, each with a mark, whether it finds its
row by keys or by a condition of any other kind. -/

namespace RelationalMapper

open Sql

namespace Dialect

theorem reads_quote (d : Dialect) (identifier : String) :
    Reads d.quotes (d.quote identifier) [.name identifier] :=
  ⟨[.name identifier], (Written.clean_name ..).mpr ⟨Written.opensPlain_nil, trivial⟩, .singleton _,
    by simp [Fragment.chars], rfl⟩

/-- The words that bind a column. -/
def bindingWords (column : String) : List Word := [.name column, .symbol "=", .mark]

/-- Bindings are read one after the other, whatever plain text stands between them. -/
theorem reads_bindings (d : Dialect) (separator : String) (hplain : isPlain separator.toList = true)
    (hopens : opensApart separator.toList = true) (hends : Sql.endsOpen separator.toList = true)
    (columns : List String) :
    Reads d.quotes (Text.joined separator (d.bindings columns))
      ((textWords separator.toList).intercalate (columns.map bindingWords)) := by
  have hne : separator ≠ "" := by
    rintro rfl
    simp [opensApart] at hopens
  have hequals : textWords " = ".toList = [.symbol "="] := by decide
  refine ⟨Written.joined separator (columns.map fun column => [.name column, .plain " = ", .mark]),
    Written.clean_joined hne hplain ?_, Written.apart_joined hopens hends ?_,
    Written.chars_joined _ separator _ ?_, ?_⟩
  · intro w hw
    obtain ⟨column, -, rfl⟩ := List.mem_map.mp hw
    simp [Fragment.isName]
    decide
  · intro w hw
    obtain ⟨column, -, rfl⟩ := List.mem_map.mp hw
    exact .cons_cons (.inr (by decide)) (.cons_cons (.inl (by decide)) (.singleton _))
  · simp [bindings, Fragment.chars, questionMark, Function.comp_def]
  · rw [Written.words_joined, List.map_map]
    simp only [Function.comp_def, List.flatMap_cons, List.flatMap_nil, Fragment.words, hequals]
    rfl

/-- The words of an update in front of its condition. -/
def assignmentHead (table : String) (columns : List String) : List Word :=
  [.symbol "UPDATE", .name table, .symbol "SET"] ++
    [.symbol ","].intercalate (columns.map bindingWords)

theorem mem_assignments {columns : List String} {word : Word}
    (h : word ∈ [.symbol ","].intercalate (columns.map bindingWords)) :
    word ∈ [.symbol ",", .symbol "=", .mark] ∨ ∃ column ∈ columns, word = .name column := by
  rcases mem_intercalate h with h | ⟨row, hrow, h⟩
  · simp_all
  · obtain ⟨column, hcolumn, rfl⟩ := List.mem_map.mp hrow
    simp only [bindingWords, List.mem_cons, List.not_mem_nil, or_false] at h
    rcases h with rfl | rfl | rfl
    · exact .inr ⟨column, hcolumn, rfl⟩
    · simp
    · simp

/-- The condition begins behind the assignments. -/
theorem where_not_mem_assignmentHead (table : String) (columns : List String) :
    .symbol "WHERE" ∉ assignmentHead table columns := by
  intro h
  rcases List.mem_append.mp h with h | h
  · simp at h
  · simpa using mem_assignments h

/-- Each assignment takes one parameter. -/
theorem count_mark_assignmentHead (table : String) (columns : List String) :
    (assignmentHead table columns).count .mark = columns.length := by
  have hassigned : ([.symbol ","].intercalate (columns.map bindingWords)).count .mark =
      columns.length := by
    induction columns with
    | nil => rfl
    | cons column columns ih =>
        cases columns with
        | nil => rfl
        | cons next columns =>
            simp only [List.map_cons] at ih ⊢
            rw [List.intercalate_cons_cons, List.count_append, List.count_append, ih]
            simp [bindingWords]
            omega
  simp [assignmentHead, hassigned]

/-- Assignments are read in front of whatever the condition is read as. -/
theorem reads_update (d : Dialect) (table : String) (columns : List String) {condition : String}
    {ws : List Word} (h : Reads d.quotes condition ws) :
    Reads d.quotes ("UPDATE " ++ d.quote table ++ " SET " ++ Text.joined ", " (d.bindings columns)
      ++ " WHERE " ++ condition) (assignmentHead table columns ++ .symbol "WHERE" :: ws) := by
  have hupdate : textWords "UPDATE ".toList = [.symbol "UPDATE"] := by decide
  have hset : textWords " SET ".toList = [.symbol "SET"] := by decide
  have hwhere : textWords " WHERE ".toList = [.symbol "WHERE"] := by decide
  have hcomma : textWords ", ".toList = [.symbol ","] := by decide
  have htable := (d.reads_quote table).behind "UPDATE " (by decide) (by decide)
  have hassigned := (d.reads_bindings ", " (by decide) (by decide) (by decide)
    columns).following " SET " (by decide) (by decide) (by decide)
  have hcondition := h.following " WHERE " (by decide) (by decide) (by decide)
  rw [hupdate] at htable
  rw [hset, hcomma] at hassigned
  rw [hwhere] at hcondition
  simpa [assignmentHead, String.append_assoc] using (htable.append hassigned).append hcondition

theorem reads_renderUpdate (d : Dialect) (s : KeyedUpdate) :
    Reads d.quotes (d.renderUpdate s) (assignmentHead s.table s.assigned ++ .symbol "WHERE" ::
      [.symbol "AND"].intercalate (s.keys.map bindingWords)) := by
  have hand : textWords " AND ".toList = [.symbol "AND"] := by decide
  have hkeys := d.reads_bindings " AND " (by decide) (by decide) (by decide) s.keys
  rw [hand] at hkeys
  exact d.reads_update s.table s.assigned hkeys

end Dialect

end RelationalMapper
