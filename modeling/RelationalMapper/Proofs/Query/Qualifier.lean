import RelationalMapper.Proofs.Query.Words
import RelationalMapper.Proofs.Sql.Selection

/-! # The tables that a statement names

A name in front of a dot stands for a table. A selection introduces such names between FROM and the
next keyword, and each of its joins may only use those that were introduced up to there. -/

namespace RelationalMapper.Sql

/-! ## Qualifiers -/

/-- The names that stand in front of a dot. -/
def qualifiers : List Word → List String
  | [] => []
  | .name n :: rest => if rest.head? = some (.symbol ".") then n :: qualifiers rest else qualifiers rest
  | _ :: rest => qualifiers rest

section Qualifiers

variable {a b ws : List Word}

@[simp] theorem qualifiers_nil : qualifiers [] = [] := rfl

@[simp] theorem qualifiers_symbol_cons (s : String) (ws : List Word) :
    qualifiers (.symbol s :: ws) = qualifiers ws := rfl

theorem qualifiers_name_cons {n : String} (h : ws.head? ≠ some (.symbol ".")) :
    qualifiers (.name n :: ws) = qualifiers ws := by
  rw [qualifiers, if_neg h]

@[simp] theorem qualifiers_name_dot_cons (n : String) (ws : List Word) :
    qualifiers (.name n :: .symbol "." :: ws) = n :: qualifiers ws := rfl

/-- No qualifier reaches over a border behind which there is no dot. -/
theorem qualifiers_append (h : b.head? ≠ some (.symbol ".")) :
    qualifiers (a ++ b) = qualifiers a ++ qualifiers b := by
  induction a with
  | nil => rfl
  | cons w a ih =>
      cases w with
      | name n =>
          have hhead : (a ++ b).head? = some (.symbol ".") ↔ a.head? = some (.symbol ".") := by
            cases a with
            | nil => simp [h]
            | cons w a => rfl
          rw [List.cons_append, qualifiers, qualifiers, ih]
          by_cases ha : a.head? = some (.symbol ".")
          · rw [if_pos ha, if_pos (hhead.mpr ha), List.cons_append]
          · rw [if_neg ha, if_neg (hhead.not.mpr ha)]
      | _ => exact ih

theorem qualifiers_eq_nil (h : ∀ n, .name n ∉ ws) : qualifiers ws = [] := by
  induction ws with
  | nil => rfl
  | cons w ws ih =>
      have hrest := ih fun n hn => h n (List.mem_cons_of_mem w hn)
      cases w with
      | name n => exact absurd List.mem_cons_self (h n)
      | _ => exact hrest

theorem name_not_mem_textWords (n : String) (text : List Char) : .name n ∉ textWords text := by
  simp [textWords]

@[simp] theorem qualifiers_textWords (text : List Char) : qualifiers (textWords text) = [] :=
  qualifiers_eq_nil fun n => name_not_mem_textWords n text

@[simp] theorem qualifiers_textWords_append (text : List Char) (ws : List Word) :
    qualifiers (textWords text ++ ws) = qualifiers ws := by
  have hsymbols (texts : List String) : qualifiers (texts.map .symbol ++ ws) = qualifiers ws := by
    induction texts with
    | nil => rfl
    | cons s texts ih => exact ih
  exact hsymbols _

/-- Rows with a separator between them have their own qualifiers, if the separator is no dot. -/
theorem qualifiers_intercalate {s : String} (hs : s ≠ ".") (rows : List (List Word)) :
    qualifiers ([.symbol s].intercalate rows) = rows.flatMap qualifiers := by
  induction rows with
  | nil => rfl
  | cons row rows ih =>
      cases rows with
      | nil => simp
      | cons next rows =>
          have hhead : (.symbol s :: [.symbol s].intercalate (next :: rows)).head? ≠
              some (Word.symbol ".") := by simpa using hs
          rw [List.intercalate_cons_cons, List.append_assoc, List.singleton_append,
            qualifiers_append hhead, qualifiers_symbol_cons, ih, ← List.flatMap_cons]

end Qualifiers

/-! ## Tables -/

/-- The keywords behind the tables of a selection. -/
def tableEnds : List Word := ["WHERE", "ORDER", "LIMIT", "OFFSET"].map .symbol

/-- A joined table under its alias, with the words of its condition. -/
structure JoinedTable where
  aliasName : String
  condition : List Word
  deriving DecidableEq

/-- The tables of a selection: the first one, with an alias or without, and the joined ones. -/
structure TableClause where
  aliasName : Option String
  joined : List JoinedTable
  deriving DecidableEq

def firstAlias? : List Word → Option String
  | .name _ :: .name aliasName :: _ => some aliasName
  | _ => none

/-- What stands behind the keyword of a join, up to the keywords of the next one. -/
def joinedTable? : List Word → Option JoinedTable
  | .name _ :: .name aliasName :: .symbol "ON" :: rest =>
    some ⟨aliasName, rest.takeWhile (· ∉ joiners)⟩
  | _ => none

def tableWords (ws : List Word) : List Word :=
  (ws.dropWhile (· ≠ .symbol "FROM")).tail.takeWhile (· ∉ tableEnds)

def tableClause (ws : List Word) : TableClause :=
  { aliasName := firstAlias? (tableWords ws)
    joined := ((tableWords ws).splitOn (.symbol "JOIN")).tail.filterMap joinedTable? }

namespace TableClause

/-- The aliases that the first table and the first few joins introduce. -/
def introduced (t : TableClause) (joins : Nat) : List String :=
  t.aliasName.toList ++ (t.joined.take joins).map (·.aliasName)

/-- Every qualifier is an alias of one of the tables, and a join uses its own alias and earlier ones. -/
structure Scopes (t : TableClause) (ws : List Word) : Prop where
  qualifiers_subset : qualifiers ws ⊆ t.introduced t.joined.length
  conditions : ∀ n j, t.joined[n]? = some j → qualifiers j.condition ⊆ t.introduced (n + 1)

end TableClause

/-- The tables stand behind the first FROM, up to one of the keywords that end them. -/
theorem tableWords_append {before tables rest : List Word} (hbefore : .symbol "FROM" ∉ before)
    (htables : Avoids tableEnds tables) (hrest : ∀ w ∈ rest.head?, w ∈ tableEnds) :
    tableWords (before ++ .symbol "FROM" :: (tables ++ rest)) = tables := by
  have hfront : ∀ w ∈ before, decide (w ≠ .symbol "FROM") = true := by
    intro w hw
    simpa using fun he : w = .symbol "FROM" => hbefore (he ▸ hw)
  rw [tableWords, List.dropWhile_append_of_pos hfront, List.dropWhile_cons_of_neg (by simp),
    List.tail_cons, takeWhile_append_of_ends htables hrest]

end RelationalMapper.Sql
