import RelationalMapper.Dialect.Schema
import RelationalMapper.Proofs.Bulk.Single
import RelationalMapper.Proofs.Dialect.Update
import RelationalMapper.Proofs.Mapping.Canonical
import RelationalMapper.Proofs.Query.Guard
import RelationalMapper.Proofs.Query.Words

/-! # Columns of ignored properties

What is ignored is left out where a statement lists the columns of properties. Keys are listed as keys,
whether they are ignored or not, and a query assigns the properties that it is given: in these two places
an ignored property is named all the same. -/

namespace RelationalMapper

/-! ## The columns that a statement names -/

namespace Sql

/-- The names that an insertion gives back. -/
def returnedColumns (sql : String) : List String :=
  ((words sql).dropWhile (· ≠ .symbol "RETURNING")).filterMap Word.identifier?

/-- The names that an update assigns. -/
def assignedColumns (sql : String) : List String :=
  (((words sql).dropWhile (· ≠ .symbol "SET")).takeWhile (· ≠ .symbol "WHERE")).filterMap
    Word.identifier?

end Sql

namespace Dialect

open Sql

/-- What stands in front of the keys that are given back. -/
theorem mem_insertionValues {rows count : Nat} {word : Word}
    (h : word ∈ [.symbol ","].intercalate (List.replicate rows
      (.symbol "(" :: (markWords count ++ [.symbol ")"])))) :
    word ∈ [.symbol ",", .symbol "(", .symbol ")", .mark] := by
  rcases mem_intercalate h with h | ⟨row, hrow, h⟩
  · simp_all
  · rw [List.eq_of_mem_replicate hrow] at h
    simp only [List.mem_cons, List.mem_append, List.not_mem_nil, or_false] at h
    rcases h with rfl | h | rfl
    · simp
    · rcases mem_markWords h with rfl | rfl <;> simp
    · simp

/-- An insertion gives its columns back in their order. -/
theorem returnedColumns_renderInsertion (d : Dialect) (s : Insertion) :
    Sql.returnedColumns (d.renderInsertion s) = s.returning := by
  have hreturning : textWords " RETURNING ".toList = [.symbol "RETURNING"] := by decide
  have hhead : ∀ word ∈ insertionHead s, word ≠ .symbol "RETURNING" := by
    rintro word hword rfl
    simpa using mem_insertionHead hword
  have hvalues : ∀ word ∈ [.symbol ","].intercalate (List.replicate s.rows
      (.symbol "(" :: (markWords s.columns.length ++ [.symbol ")"]))),
        word ≠ .symbol "RETURNING" := by
    rintro word hword rfl
    simpa using mem_insertionValues hword
  rw [Sql.returnedColumns, words_renderInsertion, List.dropWhile_append_of_pos (by simpa using hhead),
    List.dropWhile_cons_of_pos (by simp), List.dropWhile_append_of_pos (by simpa using hvalues),
    returningWritten]
  split
  · simp_all
  · rw [List.flatMap_cons, Fragment.words, hreturning, List.singleton_append,
      List.dropWhile_cons_of_neg (by simp)]
    exact identifiers_namesWritten s.returning

theorem identifiers_assignments (columns : List String) :
    ([.symbol ","].intercalate (columns.map bindingWords)).filterMap Word.identifier? = columns := by
  rw [filterMap_intercalate rfl]
  exact List.flatMap_singleton' columns

/-- The names in front of the condition are those of the columns that are assigned. -/
theorem assignedColumns_of_reads {d : Dialect} {table sql : String} {columns : List String}
    {ws : List Word} (h : Reads d.quotes sql (assignmentHead table columns ++ .symbol "WHERE" :: ws)) :
    assignedColumns sql = columns := by
  have hinside : ∀ word ∈ .symbol "SET" :: [.symbol ","].intercalate (columns.map bindingWords),
      word ≠ Word.symbol "WHERE" := by
    intro word hword
    rcases List.mem_cons.mp hword with rfl | hword
    · simp
    · rintro rfl
      simpa using mem_assignments hword
  rw [assignedColumns, h.words_eq d.quotes_mem_all, assignmentHead]
  simp only [List.cons_append, List.nil_append]
  rw [List.dropWhile_cons_of_pos (by simp), List.dropWhile_cons_of_pos (by simp),
    List.dropWhile_cons_of_neg (by simp), ← List.cons_append,
    List.takeWhile_append_of_pos (by simpa using hinside), List.takeWhile_cons_of_neg (by simp),
    List.append_nil]
  exact identifiers_assignments columns

end Dialect

/-- The statement that creates a table with these elements. -/
def Dialect.createText (d : Dialect) (table : String) (guarded : Bool)
    (elements : List TableElement) : String :=
  if guarded && !d.hasCreateGuard then
    "IF OBJECT_ID(N'" ++ literalText table ++ "', N'U') IS NULL\nBEGIN\n"
      ++ d.renderCreate table "" elements ++ "\nEND"
  else d.renderCreate table (if guarded then " IF NOT EXISTS" else "") elements

theorem Dialect.createTable_eq (d : Dialect) (m : TableMap) (guarded : Bool) :
    d.createTable m guarded = (d.elements m).map (d.createText m.table guarded) := rfl

/-- An update through a query assigns the columns of what it is given. -/
theorem Query.assignedColumns_updateStatement {q : Query} {given : List (String × Value)}
    {st : Compiled} (h : q.updateStatement (some given) = .ok st) :
    Sql.assignedColumns st.sql = given.map fun a => q.base.columnName a.1 := by
  have hcompile : (Mutation.update (some given)).compile q = .ok st := h
  have hassigned : given.map (fun a => q.assignmentText a.1) =
      q.dialect.bindings (given.map fun a => q.base.columnName a.1) := by
    rw [Dialect.bindings, List.map_map]
    rfl
  have hreads := q.dialect.reads_update q.base.table (given.map fun a => q.base.columnName a.1)
    q.reads_condition
  rw [Mutation.compile_update] at hcompile
  split at hcompile
  · contradiction
  · split at hcompile
    · contradiction
    · rw [← hassigned] at hreads
      rw [← Except.ok.inj hcompile]
      exact Dialect.assignedColumns_of_reads hreads

/-! ## What lists the columns of properties -/

namespace TableMap

variable {m : TableMap} {column : String}

/-- Every property in the column is ignored. -/
def Hides (m : TableMap) (column : String) : Prop :=
  ∀ p, m.columns.get? p = some column → m.isIgnored p = true

/-- No key in the column is ignored. -/
def KeysShown (m : TableMap) (column : String) : Prop :=
  ∀ part ∈ m.keys.values, part.column = column → m.isIgnored part.property = false

instance (m : TableMap) (column : String) : Decidable (m.KeysShown column) :=
  inferInstanceAs (Decidable (∀ part ∈ m.keys.values, part.column = column → _ = false))

/-- What is left when ignored properties are, is not stored in the column. -/
theorem Hides.ne_of_mem_mapped (h : m.Hides column) (hm : m.Canonical) {p c : String}
    (hp : (p, c) ∈ m.mapped) : c ≠ column := by
  rintro rfl
  obtain ⟨hcolumn, hshown⟩ := List.mem_filter.mp hp
  have hignored := h p (Entries.get?_of_mem hm.nodup hcolumn)
  simp [hignored] at hshown

theorem Hides.not_mem_values (h : m.Hides column) (hm : m.Canonical) {entries : Entries String}
    (hentries : ∀ e ∈ entries, e ∈ m.mapped) : column ∉ entries.values := by
  intro hcolumn
  obtain ⟨⟨p, c⟩, he, rfl⟩ := List.mem_map.mp hcolumn
  exact h.ne_of_mem_mapped hm (hentries _ he) rfl

/-- A key that is shown is not stored in the column. -/
theorem Hides.ne_of_mem_keys (h : m.Hides column) (hm : m.Resolved) (hkeys : m.KeysShown column)
    {part : KeyPart} (hpart : part ∈ m.keys.values) : part.column ≠ column := by
  rintro rfl
  have hstored := Entries.get?_of_mem hm.canonical.nodup (hm.keyed.mem_columns hpart)
  have hshown := hkeys part hpart rfl
  rw [h _ hstored] at hshown
  contradiction

/-- A column is named in a query as it is stored. -/
theorem Resolved.columnName_eq (hm : m.Resolved) {p c : String} (hp : m.columns.get? p = some c) :
    m.columnName p = c := by
  rw [columnName, column?, hp]
  simp only
  split
  · rename_i hempty
    rw [hempty] at hp ⊢
    exact hm.canonised.described.named p hp
  · rfl

/-- The detail of a property names its column. -/
theorem Canonical.name_detailAt (hm : m.Canonical) {p c : String} (hp : (p, c) ∈ m.columns) :
    (m.detailAt p c).name = c := by
  rw [detailAt]
  cases hd : m.details.get? p with
  | none => rfl
  | some d =>
      have hname := (hm.detail p d hd).2
      rw [Entries.get?_of_mem hm.nodup hp] at hname
      exact (Option.some.inj hname).symm

theorem Keyed.exists_inlineKey (hm : m.Keyed) (d : Dialect) : ∃ inline, d.inlineKey? m = .ok inline := by
  unfold Dialect.inlineKey?
  split
  · rename_i key hkey
    have hauto : m.autoKey? = some key := by
      rw [singleAutoKey?] at hkey
      split at hkey
      · exact hkey
      · contradiction
    have hcolumn := hm.mem_columns (List.mem_of_find?_eq_some hauto)
    split
    · rename_i hdetail
      rw [detail?, Option.or_eq_none_iff] at hdetail
      have hnone : m.columns.get? key.property = none := by simpa using hdetail.2
      have hhas := (Entries.has_iff_mem_names _ _).mpr (List.mem_map.mpr ⟨_, hcolumn, rfl⟩)
      rw [Entries.has, hnone] at hhas
      contradiction
    · exact ⟨_, rfl⟩
  · exact ⟨_, rfl⟩

/-- Each column of a table is that of a property which is not ignored. -/
theorem Hides.ne_of_mem_elements (h : m.Hides column) (hm : m.Canonical) {d : Dialect}
    {inline : Option String} {c : ColumnElement} (hc : .column c ∈ d.elementsWith m inline) :
    c.name ≠ column := by
  rcases List.mem_append.mp hc with hc | hc
  · obtain ⟨⟨p, name⟩, hmapped, hc⟩ := List.mem_map.mp hc
    have hname := hm.name_detailAt (List.mem_filter.mp hmapped).1
    have hne := h.ne_of_mem_mapped hm hmapped
    simp only at hc
    split at hc
    · rw [← TableElement.column.inj hc, Dialect.inlineKeyElement, hname]
      exact hne
    · have hdetail : (d.columnElement m p name).name = (m.detailAt p name).name := rfl
      rw [← TableElement.column.inj hc, hdetail, hname]
      exact hne
  · split at hc
    · rw [Dialect.keyElements] at hc
      split at hc
      · contradiction
      · cases List.mem_singleton.mp hc
    · contradiction

theorem Hides.not_mem_primaryKey (h : m.Hides column) (hm : m.Resolved) (hkeys : m.KeysShown column)
    {d : Dialect} {inline : Option String} {columns : List String}
    (hc : .primaryKey columns ∈ d.elementsWith m inline) : column ∉ columns := by
  rcases List.mem_append.mp hc with hc | hc
  · obtain ⟨⟨p, name⟩, -, hc⟩ := List.mem_map.mp hc
    simp only at hc
    split at hc <;> cases hc
  · split at hc
    · rw [Dialect.keyElements] at hc
      split at hc
      · contradiction
      · obtain rfl := TableElement.primaryKey.inj (List.mem_singleton.mp hc)
        intro hcolumn
        obtain ⟨part, hpart, rfl⟩ := List.mem_map.mp hcolumn
        exact h.ne_of_mem_keys hm hkeys hpart rfl
    · contradiction

/-! ## Statements without the column -/

/-- Where the statements of a table leave a column out: in the definitions of its columns, in the
columns of its insertions and in what its updates assign; among its keys, if no key in the column is
ignored; in what queries assign, if that are properties which are not ignored. -/
structure Withholds (m : TableMap) (column : String) (d : Dialect) : Prop where
  created : ∃ elements,
    (∀ guarded, d.createTable m guarded = .ok (d.createText m.table guarded elements)) ∧
    (∀ c, .column c ∈ elements → c.name ≠ column) ∧
      (m.KeysShown column → ∀ columns, .primaryKey columns ∈ elements → column ∉ columns)
  inserted : ∀ rows, column ∉ Sql.insertedColumns (m.insertText d rows)
  returned : m.KeysShown column → ∀ rows, column ∉ Sql.returnedColumns (m.insertText d rows)
  updated : column ∉ Sql.assignedColumns (m.updateText d)
  queried : ∀ (q : Query) given st, q.base = m → q.dialect = d →
    q.updateStatement (some given) = .ok st → (∀ a ∈ given, a.1 ∈ m.mappedProperties) →
      column ∉ Sql.assignedColumns st.sql

theorem Resolved.withholds (hm : m.Resolved) (h : m.Hides column) (d : Dialect) :
    m.Withholds column d := by
  have hcanonical := hm.canonical
  constructor
  case created =>
    obtain ⟨inline, hinline⟩ := hm.keyed.exists_inlineKey d
    refine ⟨d.elementsWith m inline, fun guarded => ?_, fun _ => h.ne_of_mem_elements hcanonical,
      fun hkeys _ => h.not_mem_primaryKey hm hkeys⟩
    rw [Dialect.createTable_eq, Dialect.elements, hinline]
    rfl
  case inserted =>
    intro rows
    rw [insertText, Dialect.insertedColumns_renderInsertion]
    exact h.not_mem_values hcanonical fun _ => mapped_of_mem_insertProperties
  case returned =>
    intro hkeys rows
    rw [insertText, Dialect.returnedColumns_renderInsertion, Dialect.insertion,
      Dialect.returnedColumns]
    split
    · intro hcolumn
      obtain ⟨part, hpart, hpartcolumn⟩ := List.mem_map.mp hcolumn
      exact h.ne_of_mem_keys hm hkeys (List.mem_filter.mp hpart).1 hpartcolumn
    · simp
  case updated =>
    rw [updateText, Dialect.assignedColumns_of_reads (d.reads_renderUpdate m.keyedUpdate)]
    exact h.not_mem_values hcanonical fun _ => mapped_of_mem_updateProperties
  case queried =>
    rintro q given st rfl rfl hst hgiven
    rw [Query.assignedColumns_updateStatement hst]
    intro hcolumn
    obtain ⟨a, ha, hname⟩ := List.mem_map.mp hcolumn
    obtain ⟨⟨p, c⟩, hmapped, hp⟩ := List.mem_map.mp (hgiven a ha)
    obtain rfl : p = a.1 := hp
    have hstored := Entries.get?_of_mem hcanonical.nodup (List.mem_filter.mp hmapped).1
    rw [hm.columnName_eq hstored] at hname
    exact h.ne_of_mem_mapped hcanonical hmapped hname

/-- The map of a class whose text is ignored. -/
def memoMap : TableMap :=
  { type := memoClass, table := "memo"
    keys := [("number", ⟨"number", "id", true⟩)]
    columns := [("number", "id"), ("text", "body")]
    details := [("number", { property := "number", name := "id", nullable := false }),
      ("text", { property := "text", name := "body", ignored := true })]
    fields := [("number", .type .int), ("text", .type .text)] }

theorem resolved_memoMap : memoMap.Resolved := ⟨memos, memoClass, drafted_memos, rfl⟩

theorem hides_body : memoMap.Hides "body" := by
  intro p hp
  by_cases hnumber : "number" = p
  · simp [memoMap, Entries.get?, hnumber] at hp
  · by_cases htext : "text" = p
    · rw [← htext]
      rfl
    · simp [memoMap, Entries.get?, hnumber, htext] at hp

theorem withholds_body :
    memoMap.Hides "body" ∧ memoMap.KeysShown "body" ∧ memoMap.Withholds "body" .postgres :=
  ⟨hides_body, by decide, resolved_memoMap.withholds hides_body .postgres⟩

/-- The map of a class whose only key is ignored after it was declared. -/
def unnumberedMap : TableMap :=
  { type := memoClass, table := "memo"
    keys := [("number", ⟨"number", "number", true⟩)]
    columns := [("number", "number"), ("text", "text")]
    details := [
      ("number", { property := "number", name := "number", nullable := false, ignored := true }),
      ("text", { property := "text", name := "text" })]
    fields := [("number", .type .int), ("text", .type .text)] }

theorem resolved_unnumberedMap : unnumberedMap.Resolved := by
  refine ⟨[("Memo",
    { type := memoClass, table := "memo", keys := unnumberedMap.keys, columns := unnumberedMap.columns
      details := unnumberedMap.details, fields := unnumberedMap.fields })], memoClass, ?_, rfl⟩
  rintro name stated hstated
  obtain ⟨-, rfl⟩ := Prod.mk.inj (List.mem_singleton.mp hstated)
  exact ⟨memoClass, [.hasKey "number" none true, .map "text" none {}, .ignore "number"], rfl⟩

/-- The memo without a text, asked for through a query. -/
def untitledMemo : Query :=
  { Query.start .postgres unnumberedMap with
    condition := [.test (.comparison ⟨none, "text"⟩ .equal (.text ""))], tests := 1 }

/-- A key that is ignored is left out of the definitions of columns, but the table is created with it
as its primary key, an insertion gives it back, and a query assigns it. -/
theorem names_ignored_key :
    unnumberedMap.Resolved ∧ unnumberedMap.isIgnored "number" = true ∧
    unnumberedMap.mappedProperties = ["text"] ∧
    (∃ elements, Dialect.postgres.elements unnumberedMap = .ok elements ∧
      .primaryKey ["number"] ∈ elements) ∧
    Sql.returnedColumns (unnumberedMap.insertText .postgres 1) = ["number"] ∧
    ∃ st, untitledMemo.updateStatement (some [("number", .int 7)]) = .ok st ∧
      Sql.assignedColumns st.sql = ["number"] :=
  ⟨resolved_unnumberedMap, by decide, by decide, ⟨_, rfl, by decide⟩, by decide +kernel,
    ⟨_, rfl, by decide +kernel⟩⟩

end TableMap

end RelationalMapper
