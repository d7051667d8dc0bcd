import Mathlib.Data.List.TakeWhile
import RelationalMapper.Proofs.Sql.Deletion
import RelationalMapper.Query.Condition

/-! # What a selection says

A database reads a selection as a table with others joined to it, a condition, an order and a page, and
an update or a deletion as a table and a condition. -/

namespace RelationalMapper.Sql

/-- A keyword or a punctuation character. -/
@[match_pattern] abbrev keyword (text : String) : Term := .word (.symbol text)

@[match_pattern] abbrev named (identifier : String) : Term := .word (.name identifier)

/-! ## Reading tests -/

inductive Operand where
  | column (c : ColumnRef)
  | value (v : Value)
  deriving DecidableEq, Inhabited

/-- One test of a condition. -/
inductive Check where
  | compare (left : ColumnRef) (op : Comparison) (right : Operand)
  | isNull (column : ColumnRef)
  | isNotNull (column : ColumnRef)
  | among (column : ColumnRef) (values : List Value)
  deriving DecidableEq, Inhabited

def column? : List Term → Option (ColumnRef × List Term)
  | named qualifier :: keyword "." :: named column :: rest => some (⟨some qualifier, column⟩, rest)
  | named column :: rest => some (⟨none, column⟩, rest)
  | _ => none

def comparison? : List Term → Option (Comparison × List Term)
  | keyword "=" :: rest => some (.equal, rest)
  | keyword "<" :: keyword ">" :: rest => some (.notEqual, rest)
  | keyword ">" :: keyword "=" :: rest => some (.greaterOrEqual, rest)
  | keyword ">" :: rest => some (.greater, rest)
  | keyword "<" :: keyword "=" :: rest => some (.lessOrEqual, rest)
  | keyword "<" :: rest => some (.less, rest)
  | keyword "LIKE" :: rest => some (.like, rest)
  | _ => none

def operand? : List Term → Option Operand
  | [.value v] => some (.value v)
  | [keyword "NULL"] => some (.value .null)
  | terms =>
    match column? terms with
    | some (c, []) => some (.column c)
    | _ => none

/-- The values of a list; a subquery without rows has none. -/
def members? : List Term → Option (List Value)
  | [keyword "SELECT", keyword "1", keyword "WHERE", keyword "1", keyword "=", keyword "0",
      keyword ")"] => some []
  | terms => listed? terms

def check? (terms : List Term) : Option Check := do
  let (column, rest) ← column? terms
  match rest with
  | [keyword "IS", keyword "NULL"] => return .isNull column
  | [keyword "IS", keyword "NOT", keyword "NULL"] => return .isNotNull column
  | keyword "IN" :: keyword "(" :: items => return .among column (← members? items)
  | _ =>
    let (op, right) ← comparison? rest
    return .compare column op (← operand? right)

/-! ## Reading conditions -/

/-- A piece of a condition that is no test. -/
def connective? : Term → Option (Piece Check)
  | keyword "AND" => some .and
  | keyword "OR" => some .or
  | keyword "(" => some .opening
  | keyword ")" => some .closing
  | _ => none

def finished? (test : List Term) : Option (List (Piece Check)) :=
  if test = [] then some [] else (check? test).map fun c => [.test c]

/-- The pieces of a condition behind the terms of an unfinished test, which may have come to the list
of its values. -/
def pieces? (test : List Term) (listing : Bool) : List Term → Option (List (Piece Check))
  | [] => finished? test
  | t :: rest =>
    if listing then pieces? (test ++ [t]) (t ≠ keyword ")") rest
    else if t = keyword "(" ∧ test.getLast? = some (keyword "IN") then
      pieces? (test ++ [t]) true rest
    else match connective? t with
      | none => pieces? (test ++ [t]) false rest
      | some piece => do
        let front ← finished? test
        return front ++ piece :: (← pieces? [] false rest)

inductive Formula where
  | check (c : Check)
  | and (left right : Formula)
  | or (left right : Formula)
  deriving DecidableEq, Inhabited

/-- What was read between two parentheses: alternatives, and behind them what has to be met together.
Conjunctions bind closer. -/
structure Level where
  alternatives : Option Formula := none
  together : Option Formula := none
  deriving DecidableEq, Inhabited

namespace Level

def meet (l : Level) (f : Formula) : Level :=
  { l with together := some (l.together.elim f (.and · f)) }

def closed? (l : Level) : Option Formula :=
  l.together.map fun f => l.alternatives.elim f (.or · f)

end Level

/-- The formula that pieces make up behind the unfinished levels of the parentheses around them. A test
or a parenthesis that opens may stand only where one is awaited. -/
def Formula.ofPieces? (awaiting : Bool) (level : Level) (around : List Level) :
    List (Piece Check) → Option Formula
  | [] => if awaiting ∨ around ≠ [] then none else level.closed?
  | .test c :: rest =>
    if awaiting then ofPieces? false (level.meet (.check c)) around rest else none
  | .and :: rest => if awaiting then none else ofPieces? true level around rest
  | .or :: rest =>
    if awaiting then none else ofPieces? true { alternatives := level.closed? } around rest
  | .opening :: rest => if awaiting then ofPieces? true {} (level :: around) rest else none
  | .closing :: rest =>
    match awaiting, level.closed?, around with
    | false, some f, outer :: around => ofPieces? false (outer.meet f) around rest
    | _, _, _ => none

def formula? (terms : List Term) : Option Formula :=
  (pieces? [] false terms).bind (Formula.ofPieces? true {} [])

/-! ## Reading statements -/

inductive Joining where
  | inner
  | left
  | right
  deriving DecidableEq, Inhabited

structure JoinClause where
  kind : Joining
  table : String
  name : String
  condition : Formula
  deriving DecidableEq, Inhabited

structure Selection where
  table : String
  name : String
  joins : List JoinClause
  condition : Option Formula
  order : List Term
  /-- How many rows are left out at first. -/
  skipped : Nat
  /-- How many rows are kept at most. -/
  kept : Option Nat
  deriving DecidableEq, Inhabited

/-- The keywords behind the tables of a selection. -/
def clauseEnds : List Term := ["WHERE", "ORDER", "LIMIT", "OFFSET"].map keyword

/-- The keywords behind a condition. -/
def conditionEnds : List Term := ["ORDER", "LIMIT", "OFFSET"].map keyword

def pageStarts : List Term := ["LIMIT", "OFFSET"].map keyword

/-- What stands behind a keyword, up to one of its ends. -/
def clause (start : Term) (ends : List Term) (terms : List Term) : List Term :=
  (terms.dropWhile (· ≠ start)).tail.takeWhile (· ∉ ends)

/-- A table with the name that it goes by. -/
def source? : List Term → Option (String × String × List Term)
  | named table :: named name :: rest => some (table, name, rest)
  | named table :: rest => some (table, table, rest)
  | _ => none

/-- What may stand in front of the keyword of a join. -/
def kindTerms : List Term := ["INNER", "LEFT", "RIGHT", "OUTER"].map keyword

def joining? : List Term → Option Joining
  | [] => some .inner
  | [keyword "INNER"] => some .inner
  | [keyword "LEFT"] => some .left
  | [keyword "RIGHT"] => some .right
  | _ => none

/-- A join between what stands in front of its keyword and what stands behind it. -/
def join? (before behind : List Term) : Option JoinClause := do
  let kind ← joining? (before.filter (· ∈ kindTerms))
  match behind.takeWhile (· ∉ kindTerms) with
  | named table :: named name :: keyword "ON" :: condition =>
    return { kind, table, name, condition := ← formula? condition }
  | _ => none

def joins? (terms : List Term) : Option (List JoinClause) :=
  match terms.splitOn (keyword "JOIN") with
  | [rest] => if rest = [] then some [] else none
  | parts => (parts.zip parts.tail).mapM fun (before, behind) => join? before behind

def numeral? : Term → Option Nat
  | keyword text => (text.toList.mapM Text.asciiDigit?).map (Number.ofDigits 10)
  | _ => none

/-- How many rows are left out and kept. A negative limit keeps all of them. -/
def page? : List Term → Option (Nat × Option Nat)
  | [] => some (0, none)
  | [keyword "LIMIT", n] => return (0, some (← numeral? n))
  | [keyword "LIMIT", n, keyword "OFFSET", m] => return (← numeral? m, some (← numeral? n))
  | [keyword "LIMIT", keyword "-", _] => return (0, none)
  | [keyword "LIMIT", keyword "-", _, keyword "OFFSET", m] => return (← numeral? m, none)
  | [keyword "OFFSET", m] => return (← numeral? m, none)
  | [keyword "OFFSET", m, keyword "ROWS"] => return (← numeral? m, none)
  | [keyword "OFFSET", m, keyword "ROWS", keyword "FETCH", keyword "NEXT", n, keyword "ROWS",
      keyword "ONLY"] => return (← numeral? m, some (← numeral? n))
  | _ => none

def condition? (terms : List Term) : Option (Option Formula) :=
  if keyword "WHERE" ∈ terms then
    (formula? (clause (keyword "WHERE") conditionEnds terms)).map some
  else some none

def selection? (terms : List Term) : Option Selection := do
  let (table, name, rest) ← source? (clause (keyword "FROM") clauseEnds terms)
  let joins ← joins? rest
  let condition ← condition? terms
  let (skipped, kept) ← page? (terms.dropWhile (· ∉ pageStarts))
  return { table, name, joins, condition, skipped, kept
           order := clause (keyword "ORDER") pageStarts terms }

/-- A statement with its parameters, read as a selection. -/
def selectionOf? (sql : String) (params : List Value) : Option Selection := do
  let terms ← filled (words sql) params
  if terms.head? = some (keyword "SELECT") then selection? terms else none

/-- The rows that an update or a deletion is about. -/
structure Target where
  table : String
  condition : Formula
  deriving DecidableEq, Inhabited

def target? : List Term → Option Target
  | keyword "DELETE" :: keyword "FROM" :: named table :: keyword "WHERE" :: condition =>
    (formula? condition).map (⟨table, ·⟩)
  | keyword "UPDATE" :: named table :: keyword "SET" :: rest =>
    (formula? (rest.dropWhile (· ≠ keyword "WHERE")).tail).map (⟨table, ·⟩)
  | _ => none

/-- A statement with its parameters, read as an update or a deletion. -/
def targetOf? (sql : String) (params : List Value) : Option Target :=
  (filled (words sql) params).bind target?

/-! ## Terms in the places of words -/

section Filled

variable {ws : List Word} {params : List Value} {terms : List Term}

theorem filled_of_not_mark_mem (h : .mark ∉ ws) : filled ws [] = some (ws.map .word) := by
  induction ws with
  | nil => rfl
  | cons w ws ih =>
      have hw : w ≠ .mark := fun he => h (he ▸ List.mem_cons_self)
      rw [filled_cons hw, ih fun hm => h (List.mem_cons_of_mem w hm)]
      rfl

/-- As many parameters as there are marks fill all of them. -/
theorem exists_filled (h : ws.count .mark = params.length) :
    ∃ terms, filled ws params = some terms := by
  induction ws generalizing params with
  | nil =>
      obtain rfl : params = [] := List.length_eq_zero_iff.mp h.symm
      exact ⟨[], rfl⟩
  | cons w ws ih =>
      by_cases hw : w = .mark
      · rw [hw] at h ⊢
        rw [List.count_cons_self] at h
        cases params with
        | nil => contradiction
        | cons v params =>
            obtain ⟨terms, hterms⟩ := ih (Nat.succ.inj h)
            exact ⟨_, by rw [filled_mark, hterms]; rfl⟩
      · rw [List.count_cons_of_ne hw] at h
        obtain ⟨terms, hterms⟩ := ih h
        exact ⟨_, by rw [filled_cons hw, hterms]; rfl⟩

/-- The words among the terms are words of the statement. -/
theorem mem_of_filled (h : filled ws params = some terms) {w : Word} (hw : .word w ∈ terms) :
    w ∈ ws := by
  induction ws generalizing params terms with
  | nil =>
      rw [filled] at h
      split at h
      · rw [← Option.some.inj h] at hw
        contradiction
      · contradiction
  | cons word ws ih =>
      by_cases hword : word = .mark
      · rw [hword] at h
        cases params with
        | nil => contradiction
        | cons v params =>
            rw [filled_mark] at h
            obtain ⟨rest, hrest, rfl⟩ := Option.map_eq_some_iff.mp h
            rcases List.mem_cons.mp hw with he | hw
            · contradiction
            · exact List.mem_cons_of_mem word (ih hrest hw)
      · rw [filled_cons hword] at h
        obtain ⟨rest, hrest, rfl⟩ := Option.map_eq_some_iff.mp h
        rcases List.mem_cons.mp hw with he | hw
        · obtain rfl := Term.word.inj he
          exact List.mem_cons_self
        · exact List.mem_cons_of_mem word (ih hrest hw)

end Filled

/-! ## Clauses between keywords -/

/-- Elements that are told apart divide a list as their images divide its image. -/
theorem splitOn_map {α β : Type} [BEq α] [LawfulBEq α] [BEq β] [LawfulBEq β] {f : α → β}
    (hf : Function.Injective f) (x : α) (xs : List α) :
    (xs.map f).splitOn (f x) = (xs.splitOn x).map (List.map f) := by
  induction xs with
  | nil => rfl
  | cons y xs ih =>
      have hfirst : (f y == f x) = (y == x) := by
        rw [Bool.eq_iff_iff, beq_iff_eq, beq_iff_eq, hf.eq_iff]
      rw [List.map_cons, List.splitOn_cons_eq_if_modifyHead, List.splitOn_cons_eq_if_modifyHead,
        hfirst, ih]
      split
      · rfl
      · cases xs.splitOn x <;> rfl
theorem takeWhile_append_of_ends {α : Type} [DecidableEq α] {ends inside after : List α}
    (hinside : ∀ t ∈ inside, t ∉ ends) (hafter : ∀ t ∈ after.head?, t ∈ ends) :
    (inside ++ after).takeWhile (· ∉ ends) = inside := by
  rw [List.takeWhile_append_of_pos (by simpa using hinside)]
  cases after with
  | nil => simp
  | cons t after =>
      have ht : t ∈ ends := hafter t rfl
      simp [ht]

section Clauses

variable {start : Term} {ends before inside after : List Term}

/-- A clause goes from its keyword to the next one. -/
theorem clause_append (hbefore : start ∉ before) (hinside : ∀ t ∈ inside, t ∉ ends)
    (hafter : ∀ t ∈ after.head?, t ∈ ends) :
    clause start ends (before ++ start :: (inside ++ after)) = inside := by
  have hfront : ∀ t ∈ before, (t ≠ start) = true := by
    intro t ht
    simpa using fun he : t = start => hbefore (he ▸ ht)
  rw [clause, List.dropWhile_append_of_pos (by simpa using hfront),
    List.dropWhile_cons_of_neg (by simp), List.tail_cons, takeWhile_append_of_ends hinside hafter]

/-- The condition of an update stands behind its assignments. -/
theorem target?_update (table : String) {assigned terms : List Term}
    (h : keyword "WHERE" ∉ assigned) :
    target? (keyword "UPDATE" :: named table :: keyword "SET" ::
      (assigned ++ keyword "WHERE" :: terms)) = (formula? terms).map (⟨table, ·⟩) := by
  have hfront : ∀ t ∈ assigned, decide (t ≠ keyword "WHERE") = true := by
    intro t ht
    simpa using fun he : t = keyword "WHERE" => h (he ▸ ht)
  rw [target?, List.dropWhile_append_of_pos hfront, List.dropWhile_cons_of_neg (by simp),
    List.tail_cons]

end Clauses

/-! ## Selections of all rows -/

/-- The keywords between the parts of a selection. -/
def clauseStarts : List Term := keyword "FROM" :: clauseEnds

theorem pageStarts_subset : ∀ t ∈ pageStarts, t ∈ conditionEnds ∧ t ∈ clauseStarts := by decide

section Selections

variable {projection source : List Term} {condition order : Option (List Term)}

/-- A selection without a page. -/
def selectionTerms (projection source : List Term) (condition order : Option (List Term)) :
    List Term :=
  keyword "SELECT" :: (projection ++ keyword "FROM" :: (source ++
    (condition.elim [] (keyword "WHERE" :: ·) ++ order.elim [] (keyword "ORDER" :: ·))))

theorem selectionOf?_eq {sql : String} {params : List Value}
    (h : filled (words sql) params = some (selectionTerms projection source condition order)) :
    selectionOf? sql params = selection? (selectionTerms projection source condition order) := by
  have hselect : (selectionTerms projection source condition order).head? =
      some (keyword "SELECT") := rfl
  rw [selectionOf?, h, Option.bind_eq_bind, Option.bind_some, if_pos hselect]

theorem condition?_selectionTerms (hprojection : ∀ t ∈ projection, t ∉ clauseStarts)
    (hsource : ∀ t ∈ source, t ∉ clauseStarts)
    (hcondition : ∀ terms ∈ condition, ∀ t ∈ terms, t ∉ conditionEnds)
    (horder : ∀ terms ∈ order, ∀ t ∈ terms, t ∉ clauseStarts) :
    condition? (selectionTerms projection source condition order) =
      condition.elim (some none) fun terms => (formula? terms).map some := by
  have hstart : keyword "WHERE" ∈ clauseStarts := by decide
  have hfront : keyword "WHERE" ∉
      keyword "SELECT" :: (projection ++ keyword "FROM" :: source) := by
    simpa using ⟨fun h => hprojection _ h hstart, fun h => hsource _ h hstart⟩
  cases condition with
  | none =>
      have hback : keyword "WHERE" ∉ order.elim [] (keyword "ORDER" :: ·) := by
        cases order with
        | none => simp
        | some terms => simpa using fun h => horder terms rfl _ h hstart
      have hnone : keyword "WHERE" ∉ selectionTerms projection source none order := by
        simpa [selectionTerms, hback] using hfront
      rw [condition?, if_neg hnone]
      rfl
  | some terms =>
      have hterms : selectionTerms projection source (some terms) order =
          keyword "SELECT" :: (projection ++ keyword "FROM" :: source) ++
            keyword "WHERE" :: (terms ++ order.elim [] (keyword "ORDER" :: ·)) := by
        simp [selectionTerms]
      have hend : ∀ t ∈ (order.elim [] (keyword "ORDER" :: ·)).head?, t ∈ conditionEnds := by
        cases order with
        | none => simp
        | some terms =>
            rintro t ⟨⟩
            decide
      have hmem : keyword "WHERE" ∈ selectionTerms projection source (some terms) order := by
        simp [selectionTerms]
      rw [condition?, if_pos hmem, hterms, clause_append hfront (hcondition terms rfl) hend]
      rfl

theorem pageStarts_not_mem_selectionTerms (hprojection : ∀ t ∈ projection, t ∉ clauseStarts)
    (hsource : ∀ t ∈ source, t ∉ clauseStarts)
    (hcondition : ∀ terms ∈ condition, ∀ t ∈ terms, t ∉ conditionEnds)
    (horder : ∀ terms ∈ order, ∀ t ∈ terms, t ∉ clauseStarts) :
    ∀ t ∈ selectionTerms projection source condition order, t ∉ pageStarts := by
  intro t ht hpage
  obtain ⟨hend, hstart⟩ := pageStarts_subset t hpage
  have hkeywords : keyword "SELECT" ∉ pageStarts ∧ keyword "FROM" ∉ pageStarts ∧
      keyword "WHERE" ∉ pageStarts ∧ keyword "ORDER" ∉ pageStarts := by decide
  obtain ⟨hselect, hfrom, hwhere, horderBy⟩ := hkeywords
  simp only [selectionTerms, List.mem_cons, List.mem_append] at ht
  rcases ht with rfl | ht | rfl | ht | ht | ht
  · exact hselect hpage
  · exact hprojection t ht hstart
  · exact hfrom hpage
  · exact hsource t ht hstart
  · cases condition with
    | none => contradiction
    | some terms =>
        rcases List.mem_cons.mp ht with rfl | ht
        · exact hwhere hpage
        · exact hcondition terms rfl t ht hend
  · cases order with
    | none => contradiction
    | some terms =>
        rcases List.mem_cons.mp ht with rfl | ht
        · exact horderBy hpage
        · exact horder terms rfl t ht hstart

/-- A selection without a page is read from its parts. -/
theorem of_selection? (hprojection : ∀ t ∈ projection, t ∉ clauseStarts)
    (hsource : ∀ t ∈ source, t ∉ clauseStarts)
    (hcondition : ∀ terms ∈ condition, ∀ t ∈ terms, t ∉ conditionEnds)
    (horder : ∀ terms ∈ order, ∀ t ∈ terms, t ∉ clauseStarts) {s : Selection}
    (h : selection? (selectionTerms projection source condition order) = some s) :
    (∃ rest, source? source = some (s.table, s.name, rest) ∧ joins? rest = some s.joins) ∧
      s.condition = condition.bind formula? ∧ s.skipped = 0 ∧ s.kept = none := by
  have hsourceClause : clause (keyword "FROM") clauseEnds
      (selectionTerms projection source condition order) = source := by
    have hfront : keyword "FROM" ∉ keyword "SELECT" :: projection := by
      simpa using fun h => hprojection _ h List.mem_cons_self
    have hinside : ∀ t ∈ source, t ∉ clauseEnds := fun t ht hend =>
      hsource t ht (List.mem_cons_of_mem _ hend)
    have hafter : ∀ t ∈ (condition.elim [] (keyword "WHERE" :: ·) ++
        order.elim [] (keyword "ORDER" :: ·)).head?, t ∈ clauseEnds := by
      cases condition <;> cases order <;> simp [clauseEnds]
    have hterms : selectionTerms projection source condition order =
        (keyword "SELECT" :: projection) ++ keyword "FROM" :: (source ++
          (condition.elim [] (keyword "WHERE" :: ·) ++ order.elim [] (keyword "ORDER" :: ·))) := rfl
    rw [hterms, clause_append hfront hinside hafter]
  have hpage : (selectionTerms projection source condition order).dropWhile (· ∉ pageStarts) = [] :=
    List.dropWhile_eq_nil_iff.mpr
      (by simpa using pageStarts_not_mem_selectionTerms hprojection hsource hcondition horder)
  obtain ⟨⟨table, name, rest⟩, hread, h⟩ := Option.bind_eq_some_iff.mp h
  obtain ⟨joins, hjoins, h⟩ := Option.bind_eq_some_iff.mp h
  obtain ⟨formula, hformula, h⟩ := Option.bind_eq_some_iff.mp h
  obtain ⟨⟨skipped, kept⟩, hwindow, h⟩ := Option.bind_eq_some_iff.mp h
  rw [hsourceClause] at hread
  rw [condition?_selectionTerms hprojection hsource hcondition horder] at hformula
  rw [hpage] at hwindow
  obtain ⟨rfl, rfl⟩ := Prod.mk.inj (Option.some.inj hwindow)
  rw [← Option.some.inj h]
  refine ⟨⟨rest, hread, hjoins⟩, ?_, rfl, rfl⟩
  cases condition with
  | none => exact (Option.some.inj hformula).symm
  | some terms =>
      obtain ⟨f, hf, hformula⟩ := Option.map_eq_some_iff.mp hformula
      rw [← hformula, Option.bind_some, hf]

end Selections

end RelationalMapper.Sql
