import RelationalMapper.Proofs.Dialect.Deletion
import RelationalMapper.Proofs.Mapping.Ignored

/-! # The table that is created

A table is created with one definition for each property that is not ignored, under the column by which
every other statement knows the property, and with its keys as the primary key. -/

namespace RelationalMapper

open Sql

/-! ## Definitions -/

namespace Dialect

/-- The texts of what a table consists of. -/
def definitions (d : Dialect) (m : TableMap) : Except Failure (List String) :=
  (d.elements m).map (List.map (·.render d))

/-- The type of a column that the database numbers. -/
def numberedType (d : Dialect) (native : Option NativeType) (type : String) : String :=
  match d with
  | mySql => type ++ " AUTO_INCREMENT"
  | sqlServer => type ++ " IDENTITY(1,1)"
  | postgres => identityType native type
  | sqlite => type

/-- What stands behind the type of a column. -/
def constraints (d : Dialect) (detail : ColumnDetail) : List String :=
  (if !detail.nullable then ["NOT NULL"] else [])
    ++ (d.defaultOf detail).toList.map ("DEFAULT " ++ ·)

/-- The definition of a column of some type. -/
def definitionText (d : Dialect) (column type : String) (detail : ColumnDetail) : String :=
  Text.joined " " (d.quote column :: type :: d.constraints detail)

/-- The only key is numbered inside its definition. -/
def Inlines (d : Dialect) (m : TableMap) : Prop :=
  d = sqlite ∧ ∃ part, m.keys.values = [part] ∧ part.auto = true ∧
    d.typeOf m part.property (m.detailAt part.property part.column) = "INTEGER"

/-- What follows the columns: the primary key, if there are keys which are not numbered inside. -/
structure StatesKeys (d : Dialect) (m : TableMap) (texts : List String) : Prop where
  inline : d.Inlines m → texts = []
  keyless : m.keys = [] → texts = []
  keyed : m.keys ≠ [] → ¬d.Inlines m →
    texts = ["PRIMARY KEY (" ++ Text.joined ", " (m.keyColumns.map d.quote) ++ ")"]

end Dialect

namespace TableMap

/-- The text defines the column of a property: it begins with the quoted name, has the type of the
property as it is, and a mark for numbers of the database only if the property is an automatic key. -/
structure Defines (m : TableMap) (d : Dialect) (property column text : String) : Prop where
  begins : ∃ rest, text = d.quote column ++ " " ++ rest
  unmarked : Dialect.isNumbered m property = false →
    text = d.definitionText column (d.typeOf m property (m.detailAt property column))
      (m.detailAt property column)
  inline : d.Inlines m → Dialect.isNumbered m property = true →
    text = d.quote column ++ " INTEGER PRIMARY KEY AUTOINCREMENT"
  marked : ¬d.Inlines m → Dialect.isNumbered m property = true →
    text = d.definitionText column (d.numberedType (Dialect.nativeOf m property)
      (d.typeOf m property (m.detailAt property column))) (m.detailAt property column)

end TableMap

/-! ## How columns are written -/

/-- Two parts that are joined are one part. -/
theorem Text.joined_merge (separator first second third : String) (rest : List String) :
    Text.joined separator (first :: second :: third :: rest) =
      Text.joined separator (first :: (second ++ separator ++ third) :: rest) := by
  cases rest with
  | nil => simp [Text.joined, String.append_assoc]
  | cons next rest => simp [Text.joined_cons_cons, String.append_assoc]

namespace Dialect

theorem begins_definitionText (d : Dialect) (column type : String) (detail : ColumnDetail) :
    ∃ rest, d.definitionText column type detail = d.quote column ++ " " ++ rest :=
  ⟨_, Text.joined_cons_cons ..⟩

/-- What marks a column as numbered stands behind its type. -/
theorem renderColumn_eq (d : Dialect) (name type : String) (identity : Option String)
    (detail : ColumnDetail) :
    TableElement.renderColumn d
      { name, type, identity, notNull := !detail.nullable, default := d.defaultOf detail } =
      d.definitionText name (type ++ identity.elim "" (" " ++ ·)) detail := by
  cases identity with
  | none => simp [TableElement.renderColumn, definitionText, constraints]
  | some mark =>
      simp [TableElement.renderColumn, definitionText, constraints, Text.joined_merge,
        String.append_assoc]

/-- The type that a column is written with. -/
theorem renderColumn_columnElement (d : Dialect) (m : TableMap) (property column : String) :
    TableElement.renderColumn d (d.columnElement m property column) =
      d.definitionText (m.detailAt property column).name
        (if isNumbered m property then d.numberedType (nativeOf m property)
          (d.typeOf m property (m.detailAt property column))
        else d.typeOf m property (m.detailAt property column)) (m.detailAt property column) := by
  have hmysql : Text.trim (autoClause .mySql) = "AUTO_INCREMENT" := by decide
  have hsqlserver : Text.trim (autoClause .sqlServer) = "IDENTITY(1,1)" := by decide
  simp only [columnElement]
  rw [renderColumn_eq]
  congr 1
  cases d with
  | mySql => cases isNumbered m property <;> simp [numberedType, hmysql]
  | sqlite => cases isNumbered m property <;> simp [numberedType]
  | sqlServer => cases isNumbered m property <;> simp [numberedType, hsqlserver]
  | postgres =>
      cases isNumbered m property with
      | false => simp
      | true =>
          simp only [numberedType, identityType]
          cases identityWidth? (nativeOf m property)
            (typeOf .postgres m property (m.detailAt property column)) with
          | none => simp
          | some width => simp [String.append_assoc]

theorem renderColumn_inlineKeyElement (d : Dialect) (name : String) :
    TableElement.renderColumn d (inlineKeyElement name) =
      d.quote name ++ " INTEGER PRIMARY KEY AUTOINCREMENT" := by
  simp [TableElement.renderColumn, inlineKeyElement, Text.joined, String.append_assoc]

end Dialect

/-! ## The key that is numbered inside its definition -/

namespace TableMap

variable {m : TableMap} {d : Dialect}

theorem singleAutoKey?_eq_some {part : KeyPart} :
    m.singleAutoKey? = some part ↔ m.keys.values = [part] ∧ part.auto = true := by
  rw [singleAutoKey?, autoKey?, Entries.values]
  rcases m.keys with _ | ⟨⟨name, key⟩, _ | ⟨next, rest⟩⟩
  · simp
  · simpa using and_comm.trans (and_congr_right fun h => by rw [h])
  · simp

theorem Resolved.detail?_key (hm : m.Resolved) {part : KeyPart} (h : part ∈ m.keys.values) :
    m.detail? part.property = some (m.detailAt part.property part.column) := by
  have hcolumn := Entries.get?_of_mem hm.canonical.nodup (hm.keyed.mem_columns h)
  rw [detail?, detailAt, hcolumn]
  cases m.details.get? part.property <;> rfl

theorem Keyed.isNumbered_iff (hm : m.Keyed) (property : String) :
    Dialect.isNumbered m property = true ↔ property ∈ autoProperties m.keys := by
  rw [Dialect.isNumbered, Option.any_eq_true]
  constructor
  · rintro ⟨part, hpart, hauto⟩
    refine List.mem_map.mpr ⟨part, List.mem_filter.mpr ⟨?_, hauto⟩, (hm.seated.column _ _ hpart).1⟩
    exact List.mem_map.mpr ⟨_, Entries.mem_of_get? hpart, rfl⟩
  · intro hproperty
    obtain ⟨part, hpart, rfl⟩ := List.mem_map.mp hproperty
    obtain ⟨hvalue, hauto⟩ := List.mem_filter.mp hpart
    obtain ⟨⟨name, part⟩, hentry, rfl⟩ := List.mem_map.mp hvalue
    have hget := Entries.get?_of_mem hm.seated.nodup hentry
    rw [(hm.seated.column _ _ hget).1]
    exact ⟨part, hget, hauto⟩

/-- What is numbered inside its definition is the automatic key of a table with one key. -/
theorem Resolved.inlineKey?_eq (hm : m.Resolved) (d : Dialect) :
    ∃ inline, d.inlineKey? m = .ok inline ∧ (inline = none ↔ ¬d.Inlines m) ∧
      ∀ p, some p = inline ↔ d.Inlines m ∧ Dialect.isNumbered m p = true := by
  by_cases h : d.Inlines m
  · obtain ⟨rfl, part, hkeys, hauto, htype⟩ := id h
    have hpart : part ∈ m.keys.values := by simp [hkeys]
    have hdetail := hm.detail?_key hpart
    refine ⟨some part.property, ?_, by simpa using h, fun p => ?_⟩
    · simp [Dialect.inlineKey?, singleAutoKey?_eq_some.mpr ⟨hkeys, hauto⟩, hdetail, htype]
    · rw [hm.keyed.isNumbered_iff, autoProperties, hkeys]
      simp [hauto, h]
  · refine ⟨none, ?_, by simpa using h, by simp [h]⟩
    unfold Dialect.inlineKey?
    split
    · rename_i part hsingle
      obtain ⟨hkeys, hauto⟩ := singleAutoKey?_eq_some.mp hsingle
      have htype : Dialect.typeOf .sqlite m part.property
          (m.detailAt part.property part.column) ≠ "INTEGER" :=
        fun htype => h ⟨rfl, part, hkeys, hauto, htype⟩
      have hpart : part ∈ m.keys.values := by simp [hkeys]
      simp [hm.detail?_key hpart, htype]
    · rfl

/-! ## The definitions of a table -/

theorem Resolved.defines_columnElement (hm : m.Resolved) {p c : String} (hp : (p, c) ∈ m.columns)
    (h : ¬(d.Inlines m ∧ Dialect.isNumbered m p = true)) :
    m.Defines d p c (TableElement.render d (.column (d.columnElement m p c))) := by
  have hname := hm.canonical.name_detailAt hp
  have htext := d.renderColumn_columnElement m p c
  rw [hname] at htext
  rw [TableElement.render, htext]
  refine ⟨d.begins_definitionText _ _ _, fun hnot => ?_, fun hinline hnumbered => ?_,
    fun _ hnumbered => ?_⟩
  · simp [hnot]
  · exact absurd ⟨hinline, hnumbered⟩ h
  · simp [hnumbered]

theorem Resolved.defines_inlineKeyElement (hm : m.Resolved) {p c : String} (hp : (p, c) ∈ m.columns)
    (hinline : d.Inlines m) (hnumbered : Dialect.isNumbered m p = true) :
    m.Defines d p c (TableElement.render d
      (.column (Dialect.inlineKeyElement (m.detailAt p c).name))) := by
  rw [TableElement.render, hm.canonical.name_detailAt hp, Dialect.renderColumn_inlineKeyElement]
  refine ⟨⟨"INTEGER PRIMARY KEY AUTOINCREMENT", by simp [String.append_assoc]⟩, fun hnot => ?_,
    fun _ _ => rfl, fun hnot => absurd hinline hnot⟩
  rw [hnumbered] at hnot
  contradiction

/-- The definition of a column beside a key that is numbered inside its own. -/
def columnText (m : TableMap) (d : Dialect) (inline : Option String) (entry : String × String) :
    String :=
  TableElement.render d
    (if some entry.1 = inline then
      .column (Dialect.inlineKeyElement (m.detailAt entry.1 entry.2).name)
    else .column (d.columnElement m entry.1 entry.2))

theorem definitions_eq {inline : Option String} (h : d.inlineKey? m = .ok inline) :
    d.definitions m = .ok (m.mapped.map (m.columnText d inline)
      ++ (if inline = none then Dialect.keyElements m else []).map (·.render d)) := by
  rw [Dialect.definitions, Dialect.elements, h]
  simp only [Except.map, Dialect.elementsWith, List.map_append, List.map_map]
  rfl

/-- Behind the columns, the table has its keys as the primary key, unless its only key is numbered inside
its definition. -/
theorem Resolved.exists_definitions (hm : m.Resolved) (d : Dialect) :
    ∃ texts closing, d.definitions m = .ok (texts ++ closing) ∧
      List.Forall₂ (fun entry text => m.Defines d entry.1 entry.2 text) m.mapped texts ∧
      d.StatesKeys m closing := by
  obtain ⟨inline, hinline, hnone, hsome⟩ := hm.inlineKey?_eq d
  refine ⟨_, _, definitions_eq hinline, ?_, ?_⟩
  · rw [List.forall₂_map_right_iff, List.forall₂_same]
    rintro ⟨p, c⟩ hp
    have hcolumn := (List.mem_filter.mp hp).1
    unfold columnText
    split
    · rename_i heq
      obtain ⟨hinlines, hnumbered⟩ := (hsome p).mp heq
      exact hm.defines_inlineKeyElement hcolumn hinlines hnumbered
    · rename_i hne
      exact hm.defines_columnElement hcolumn fun h => hne ((hsome p).mpr h)
  · constructor
    case inline =>
      intro h
      rw [if_neg (fun he => hnone.mp he h), List.map_nil]
    case keyless =>
      intro h
      rw [Dialect.keyElements, if_pos h]
      split <;> rfl
    case keyed =>
      intro h hnot
      rw [if_pos (hnone.mpr hnot), Dialect.keyElements, if_neg h]
      rfl

end TableMap

/-! ## The columns by which rows are found -/

/-- The names behind WHERE. -/
def Sql.testedColumns (sql : String) : List String :=
  ((words sql).dropWhile (· ≠ .symbol "WHERE")).filterMap Word.identifier?

namespace Dialect

theorem testedColumns_renderUpdate (d : Dialect) (s : KeyedUpdate) :
    Sql.testedColumns (d.renderUpdate s) = s.keys := by
  have hhead : ∀ word ∈ assignmentHead s.table s.assigned, word ≠ .symbol "WHERE" := by
    rintro word hword rfl
    exact where_not_mem_assignmentHead _ _ hword
  rw [Sql.testedColumns, (d.reads_renderUpdate s).words_eq d.quotes_mem_all,
    List.dropWhile_append_of_pos (by simpa using hhead), List.dropWhile_cons_of_neg (by simp),
    List.filterMap_cons_none rfl, filterMap_intercalate rfl]
  exact List.flatMap_singleton' s.keys

theorem identifiers_equalitiesWritten (columns : List String) :
    ((equalitiesWritten columns).flatMap Fragment.words).filterMap Word.identifier? = columns := by
  rw [words_equalitiesWritten, filterMap_intercalate rfl]
  exact List.flatMap_singleton' columns

/-- A list of values has one column in front of it, and alternatives have their columns each time. -/
def testedBy : RowChoice → List String
  | .byKey columns => columns
  | .oneOf column _ => [column]
  | .anyOf columns count => (List.replicate count columns).flatten

theorem identifiers_textWords (text : List Char) :
    (textWords text).filterMap Word.identifier? = [] := by
  refine List.filterMap_eq_nil_iff.mpr fun word hword => ?_
  obtain ⟨letters, -, rfl⟩ := List.mem_map.mp hword
  rfl

theorem identifiers_markWords (count : Nat) : (markWords count).filterMap Word.identifier? = [] := by
  refine List.filterMap_eq_nil_iff.mpr fun word hword => ?_
  rcases mem_markWords hword with rfl | rfl <;> rfl

theorem identifiers_choiceWritten (rows : RowChoice) :
    ((choiceWritten rows).flatMap Fragment.words).filterMap Word.identifier? = testedBy rows := by
  cases rows with
  | byKey columns => exact identifiers_equalitiesWritten columns
  | oneOf column count =>
      simp only [choiceWritten, List.flatMap_cons, List.flatMap_append, List.flatMap_nil,
        Fragment.words, words_markers, List.filterMap_append, identifiers_textWords,
        identifiers_markWords]
      rfl
  | anyOf columns count =>
      have hor : textWords " OR ".toList = [.symbol "OR"] := by decide
      rw [choiceWritten, Written.words_joined, hor, filterMap_intercalate rfl,
        List.flatMap_replicate]
      simp only [List.flatMap_cons, List.flatMap_append, List.flatMap_nil, Fragment.words,
        List.filterMap_append, identifiers_textWords, identifiers_equalitiesWritten]
      simp [testedBy]

theorem testedColumns_renderDeletion (d : Dialect) (s : Deletion) :
    Sql.testedColumns (d.renderDeletion s) = testedBy s.rows := by
  rw [Sql.testedColumns, words_renderDeletion, List.dropWhile_cons_of_pos (by simp),
    List.dropWhile_cons_of_pos (by simp), List.dropWhile_cons_of_pos (by simp),
    List.dropWhile_cons_of_neg (by simp), List.filterMap_cons_none rfl,
    identifiers_choiceWritten]

end Dialect

namespace TableMap

variable {m : TableMap}

theorem testedBy_choice (m : TableMap) (count : Nat) :
    Dialect.testedBy (m.choice count) =
      (List.replicate (if m.keys.length = 1 then 1 else count) m.keyColumns).flatten := by
  have hlength : m.keys.length = m.keyColumns.length := by simp [keyColumns, Entries.values]
  rw [hlength, choice]
  split
  · rename_i column hcolumn
    simp [hcolumn, Dialect.testedBy]
  · rename_i hseveral
    have hne : m.keyColumns.length ≠ 1 := fun hone => by
      obtain ⟨column, hcolumn⟩ := List.length_eq_one_iff.mp hone
      exact hseveral column hcolumn
    rw [if_neg hne, Dialect.testedBy]

/-- The definitions of a table and the statements that write its rows are about the same columns. -/
structure Agrees (m : TableMap) (d : Dialect) : Prop where
  once : m.columns.names.Nodup
  defined : ∃ texts closing, d.definitions m = .ok (texts ++ closing) ∧
    List.Forall₂ (fun entry text => m.Defines d entry.1 entry.2 text)
      (m.columns.filter fun entry => !m.isIgnored entry.1) texts ∧
    d.StatesKeys m closing
  inserted : ∀ rows, Sql.insertedColumns (m.insertText d rows) =
    (m.mapped.filter fun entry => !Dialect.isNumbered m entry.1).map (·.2)
  assigned : Sql.assignedColumns (m.updateText d) =
    (m.mapped.filter fun entry => !m.keys.has entry.1).map (·.2)
  keyed : ∀ part ∈ m.keys.values, (part.property, part.column) ∈ m.mapped
  updated : Sql.testedColumns (m.updateText d) = m.keyColumns
  deleted : Sql.testedColumns (d.renderDeletion { table := m.table, rows := .byKey m.keyColumns }) =
    m.keyColumns
  deletedTogether : ∀ count,
    Sql.testedColumns (d.renderDeletion { table := m.table, rows := m.choice count }) =
      (List.replicate (if m.keys.length = 1 then 1 else count) m.keyColumns).flatten

theorem Resolved.agrees (hm : m.Resolved)
    (hshown : ∀ part ∈ m.keys.values, m.isIgnored part.property = false) (d : Dialect) :
    m.Agrees d := by
  constructor
  case once => exact hm.canonical.nodup
  case defined => exact hm.exists_definitions d
  case inserted =>
    intro rows
    have hauto (p : String) : (!Dialect.isNumbered m p) = decide (p ∉ autoProperties m.keys) := by
      have hnumbered := hm.keyed.isNumbered_iff p
      cases h : Dialect.isNumbered m p <;> simp_all
    rw [insertText, Dialect.insertedColumns_renderInsertion]
    simp only [Dialect.insertion, Entries.values, insertProperties, hauto]
  case assigned => exact Dialect.assignedColumns_of_reads (d.reads_renderUpdate m.keyedUpdate)
  case keyed =>
    intro part hpart
    refine List.mem_filter.mpr ⟨hm.keyed.mem_columns hpart, ?_⟩
    simp [hshown part hpart]
  case updated => exact d.testedColumns_renderUpdate m.keyedUpdate
  case deleted => exact d.testedColumns_renderDeletion _
  case deletedTogether =>
    intro count
    rw [d.testedColumns_renderDeletion, testedBy_choice]

/-- The memos with the number that the database makes. -/
theorem agrees_memoMap :
    memoMap.Resolved ∧ (∀ part ∈ memoMap.keys.values, memoMap.isIgnored part.property = false) ∧
      Dialect.sqlite.definitions memoMap = .ok ["\"id\" INTEGER PRIMARY KEY AUTOINCREMENT"] ∧
      memoMap.Agrees .sqlite :=
  ⟨resolved_memoMap, by decide, rfl, resolved_memoMap.agrees (by decide) .sqlite⟩

end TableMap

end RelationalMapper
