import RelationalMapper.Proofs.Number.Numeral
import RelationalMapper.Proofs.Query.Statement
import RelationalMapper.Proofs.Sql.Words

/-! # Pages in the grammar of each product

Each product has its own clause for a page, and some leave parts of it out. Read by the grammar of its
product, the clause keeps the rows that limit and offset ask for. -/

namespace RelationalMapper

open Number Sql

/-- What a page clause asks for: how many rows to skip, and how many of the others to keep at most. -/
structure Page where
  skipped : Nat
  most : Option Nat
  deriving Repr, DecidableEq

/-- The rows of a result that are on the page. -/
def Page.rows {α : Type} (p : Page) (result : List α) : List α :=
  p.most.elim id List.take (result.drop p.skipped)

/-! ## The grammars -/

/-- A numeral is a word of digits. -/
def Sql.Word.number? : Word → Option Nat
  | .symbol text =>
    if text = "" then none else (text.toList.mapM Text.asciiDigit?).map (ofDigits 10)
  | _ => none

namespace Dialect

/-- How many rows LIMIT asks for, and the words behind it. With SQLite the number may be negative: then
it asks for all of them. -/
def bound? (d : Dialect) : List Word → Option (Option Nat × List Word)
  | [] => none
  | w :: rest =>
    match w.number? with
    | some n => some (some n, rest)
    | none =>
      match d, rest with
      | sqlite, n :: rest =>
        if w = .symbol "-" then n.number?.map fun n => (if n = 0 then some 0 else none, rest)
        else none
      | _, _ => none

/-- OFFSET at the end of the clause; without it no row is skipped. -/
def skipped? : List Word → Option Nat
  | [] => some 0
  | [.symbol "OFFSET", m] => m.number?
  | _ => none

/-- LIMIT with OFFSET behind it. Only PostgreSQL's LIMIT may be left out. -/
def limitOffset? (d : Dialect) : List Word → Option Page
  | .symbol "LIMIT" :: rest => do
    let (most, rest) ← d.bound? rest
    (skipped? rest).map (⟨·, most⟩)
  | ws => if d = postgres then (skipped? ws).map (⟨·, none⟩) else none

/-- FETCH at the end of the clause; without it all rows are kept. -/
def fetched? : List Word → Option (Option Nat)
  | [] => some none
  | [.symbol "FETCH", .symbol "NEXT", n, .symbol "ROWS", .symbol "ONLY"] => n.number?.map some
  | _ => none

/-- OFFSET, which may not be left out, with FETCH behind it. -/
def offsetFetch? : List Word → Option Page
  | .symbol "OFFSET" :: m :: .symbol "ROWS" :: rest => do return ⟨← m.number?, ← fetched? rest⟩
  | _ => none

/-- The page that a clause asks for. -/
def page? : Dialect → List Word → Option Page
  | sqlServer, ws => offsetFetch? ws
  | d, ws => d.limitOffset? ws

end Dialect

/-! ## Numerals as words -/

theorem Number.toList_intText (n : Nat) : (intText n).toList = natChars n := String.toList_ofList

theorem Number.mapM_asciiDigit? {ds : List Nat} (h : ∀ d ∈ ds, d < 10) :
    (ds.map digitChar).mapM Text.asciiDigit? = some ds := by
  induction ds with
  | nil => rfl
  | cons d ds ih =>
      have hd := asciiDigit?_digitChar (h d List.mem_cons_self)
      have htail := ih fun e he => h e (List.mem_cons_of_mem d he)
      simp [hd, htail]

namespace Sql

theorem Word.number?_intText (n : Nat) : (Word.symbol (intText n)).number? = some n := by
  have hdigits : (natChars n).mapM Text.asciiDigit? = some (digits 10 n) :=
    mapM_asciiDigit? (digits_lt (by decide) n)
  rw [Word.number?, if_neg (intText_ne_empty n), toList_intText, hdigits, Option.map_some,
    ofDigits_digits]

theorem isWordChar_digitChar : ∀ d < 10, isWordChar (digitChar d) = true := by decide

/-- Letters and digits go on with the word that is not finished. -/
theorem wordsBehind_of_isWordChar {text : List Char} (h : ∀ c ∈ text, isWordChar c = true)
    (letters : List Char) : wordsBehind letters text = finishedWord (letters ++ text) := by
  induction text generalizing letters with
  | nil => simp [wordsBehind]
  | cons c text ih =>
      have hc := h c List.mem_cons_self
      have htail := ih (fun e he => h e (List.mem_cons_of_mem c he)) (letters ++ [c])
      simp [wordsBehind, hc, htail]

/-- A numeral is one word. -/
theorem textWords_intText (n : Nat) :
    textWords (intText n).toList = [.symbol (intText n)] := by
  have hword : ∀ c ∈ natChars n, isWordChar c = true := by
    intro c hc
    obtain ⟨d, hd, rfl⟩ := mem_natChars hc
    exact isWordChar_digitChar d hd
  rw [toList_intText, textWords, wordsBehind_of_isWordChar hword, List.nil_append, finishedWord,
    if_neg (natChars_ne_nil n)]
  rfl

theorem words_of_isPlain {text : String} (h : isPlain text.toList = true) :
    words text = textWords text.toList := by
  by_cases hne : text = ""
  · subst hne
    exact Written.words_eq Dialect.sqlite.quotes_mem_all (w := []) trivial (by simp) rfl
  · have hclean : Written.Clean [.plain text] := (Written.clean_plain ..).mpr ⟨hne, h, trivial⟩
    rw [Written.words_eq_of_apart Dialect.sqlite.quotes_mem_all hclean (.singleton _)
      (by simp [Fragment.chars])]
    simp [Fragment.words]

end Sql

/-! ## Limits and offsets -/

/-- What a value says as a limit or an offset: null says that there is none, and any other value stands
for a natural number. -/
def Value.Counts (v : Value) (count : Option Nat) : Prop :=
  count.elim (v = .null) fun n => v.toInteger = .ok n

/-- The number, if there is one, is not too long to be written. -/
def Writable (count : Option Nat) : Prop := ∀ n ∈ count, n < 10 ^ mostDigitsAsText

theorem writable_none : Writable none := fun _ h => nomatch h

theorem exists_of_not_writable {count : Option Nat} (h : ¬Writable count) :
    ∃ n, count = some n ∧ 10 ^ mostDigitsAsText ≤ n := by
  simpa [Writable] using h

/-! ### What counts as nothing -/

theorem Number.Decimal.signed_zero (negative : Bool) : signed negative 0 = 0 := by
  cases negative <;> rfl

theorem Integer.ofBinary_of_isZero {x : Binary} (h : x.isZero = true) : ofBinary x = .ok 0 := by
  cases x with
  | finite negative mantissa exponent =>
      have hmantissa : mantissa = 0 := by simpa [Binary.isZero] using h
      simp [ofBinary, Binary.truncate?, Binary.fraction, hmantissa, Decimal.signed_zero]
  | infinite => simp [Binary.isZero] at h
  | nan => simp [Binary.isZero] at h

theorem Integer.ofDecimal_of_isZero {d : Decimal} (h : d.isZero = true) : ofDecimal d = .ok 0 := by
  cases d with
  | finite negative coefficient exponent =>
      have hcoefficient : coefficient = 0 := by simpa [Decimal.isZero] using h
      have hwhole : Decimal.wholeMagnitude 0 exponent = 0 := by
        cases exponent <;> simp [Decimal.wholeMagnitude]
      simp [ofDecimal, Decimal.isVast, Decimal.truncate?, hcoefficient, hwhole, Decimal.signed_zero]
  | infinite => simp [Decimal.isZero] at h
  | nan => simp [Decimal.isZero] at h

theorem Integer.ofText_empty : ofText "" = .malformed := by decide

theorem Integer.ofBytes_nil : ofBytes [] = .malformed := by decide

namespace Value

/-- A value that counts as nothing stands for no other number than zero. -/
theorem toInteger_of_isFalsy {v : Value} {n : Int} (hfalsy : v.isFalsy = true)
    (h : v.toInteger = .ok n) : n = 0 := by
  unfold isFalsy at hfalsy
  split at hfalsy
  · simp [toInteger] at h
  · rename_i m
    have hzero : m.stamp.nanoseconds = 0 := by simpa using hfalsy
    rw [toInteger, Scalar.toInteger, Scalar.nanosecondCount?] at h
    cases hcount : m.isCount with
    | true =>
        rw [hcount, if_pos rfl] at h
        exact (Except.ok.inj h).symm.trans hzero
    | false =>
        -- What is not a count is a point in time, which stands for no number.
        have hmoment : (Scalar.machineMoment (some m)).unwrapped.plainInteger =
          .error (Integer.notANumber (Scalar.dateTime m.stamp.moment).type) := rfl
        rw [hcount, if_neg Bool.false_ne_true, hmoment] at h
        contradiction
  · rename_i s hmoment
    have hcount : s.nanosecondCount? = none := by
      cases s <;> simp_all [Scalar.nanosecondCount?]
    rw [toInteger, Scalar.toInteger, hcount] at h
    rw [Scalar.plainInteger] at h
    cases hplain : s.unwrapped.plain with
    | null => simp [hplain] at h
    | bool b => simp_all
    | int i => simp_all
    | float x | extended x => simp_all [Integer.ofBinary_of_isZero]
    | decimal d => simp_all [Integer.ofDecimal_of_isZero]
    | text t => simp_all [Integer.ofText_empty, Integer.Reading.result]
    | bytes b | byteArray b => simp_all [Integer.ofBytes_nil, Integer.Reading.result]
    | _ => simp [hplain] at hfalsy

/-! ### Numerals of limits and offsets -/

variable {v : Value} {count : Option Nat}

theorem Counts.eq_null_iff (h : v.Counts count) : v = .null ↔ count = none := by
  cases count with
  | none => exact iff_of_true h rfl
  | some n =>
      refine iff_of_false ?_ (by simp)
      rintro rfl
      have hnull : toInteger .null = .error (Integer.notANumber .null) := rfl
      simp [Counts, hnull] at h

/-- The numeral of a count. -/
theorem Counts.numeral {n : Nat} (h : v.Counts (some n)) :
    (v.toInteger >>= Integer.numeral) = Integer.numeral n := by
  rw [show v.toInteger = pure (n : Int) from h, pure_bind]

end Value

theorem Integer.numeral_natCast {n : Nat} (h : n < 10 ^ mostDigitsAsText) :
    numeral n = .ok (intText n) := by
  rw [numeral, Int.natAbs_natCast, Nat.pow_eq, if_pos h]

theorem Integer.numeral_of_long {n : Nat} (h : 10 ^ mostDigitsAsText ≤ n) :
    numeral n = .error (.argument .longInteger) := by
  rw [numeral, Int.natAbs_natCast, Nat.pow_eq, if_neg (Nat.not_lt.mpr h)]

namespace Window

theorem numeral?_of_counts {v : Value} {count : Option Nat} (h : v.Counts count)
    (hwritable : Writable count) : numeral? v = .ok (count.map fun n : Nat => intText n) := by
  cases count with
  | none => rw [numeral?, if_pos (h.eq_null_iff.mpr rfl), Option.map_none]
  | some n =>
      have hnull : v ≠ .null := fun he => by simpa using h.eq_null_iff.mp he
      rw [numeral?, if_neg hnull, h.numeral, Integer.numeral_natCast (hwritable n rfl)]
      rfl

theorem numeral?_of_long {v : Value} {count : Option Nat} (h : v.Counts count)
    (hlong : ¬Writable count) : numeral? v = .error (.argument .longInteger) := by
  obtain ⟨n, rfl, hn⟩ := exists_of_not_writable hlong
  have hnull : v ≠ .null := fun he => by simpa using h.eq_null_iff.mp he
  rw [numeral?, if_neg hnull, h.numeral, Integer.numeral_of_long hn]
  rfl

end Window

/-! ## The clauses that are written -/

namespace Dialect

/-- The order that stands in where a page clause needs one. -/
def constantOrder? : Dialect → Option String
  | sqlServer => some "(SELECT 1)"
  | _ => none

/-- The order that is put behind a statement, in front of its page clause. -/
def ordering (d : Dialect) (sql : String) (order : Option String) : String :=
  if hasOrderBy sql then ""
  else ((order.filter (· ≠ "")).or d.constantOrder?).elim "" (" ORDER BY " ++ ·)

def pageClause (d : Dialect) (w : Window) : Except Failure String :=
  if d = sqlServer then offsetFetch w else d.limitOffset w

theorem paginate_of_not_isOpen (d : Dialect) (sql : String) (order : Option String) {w : Window}
    (h : w.isOpen = false) :
    d.paginate sql order w = (sql ++ d.ordering sql order ++ ·) <$> d.pageClause w := by
  simp only [paginate, h, pageClause, ordering]
  generalize order.filter (· ≠ "") = given
  cases d <;> cases given <;> cases hasOrderBy sql
  all_goals simp [constantOrder?, String.append_assoc]

/-! ### Limit and offset as clauses -/

/-- LIMIT in front of a number, or in front of what stands in for it. -/
def limitText (d : Dialect) (limit : Option Nat) : String :=
  limit.elim (d.unboundedLimit?.elim "" limitClause) fun n => limitClause (intText n)

def offsetText (offset : Option Nat) : String := offset.elim "" fun n => offsetClause (intText n)

/-- FETCH in front of a number. -/
def fetchText (limit : Option Nat) : String :=
  limit.elim "" fun n => " FETCH NEXT " ++ intText n ++ " ROWS ONLY"

/-- The page clause with these numbers in it. -/
def pageText (d : Dialect) (limit offset : Option Nat) : String :=
  if d = sqlServer then offsetClause (intText (offset.getD 0 : Nat)) ++ " ROWS" ++ fetchText limit
  else d.limitText limit ++ offsetText offset

section Counts

variable {w : Window} {limit offset : Option Nat}

theorem skipped_of_counts (hoffset : w.offset.Counts offset) (hs : Writable offset) :
    (if w.offset.isFalsy then pure "0" else w.offset.toInteger >>= Integer.numeral) =
      .ok (intText (offset.getD 0 : Nat)) := by
  have hzero : intText (0 : Nat) = "0" := by
    have hdigits : digits 10 0 = [0] := digits_of_not_le (by decide)
    rw [intText, show intChars (0 : Nat) = natChars 0 from rfl, natChars, hdigits]
    rfl
  cases offset with
  | none =>
      rw [hoffset.eq_null_iff.mpr rfl, Option.getD_none, hzero]
      rfl
  | some n =>
      have hinteger : w.offset.toInteger = .ok (n : Int) := hoffset
      rw [Option.getD_some]
      cases hfalsy : w.offset.isFalsy with
      | true =>
          have hn : (n : Int) = 0 := Value.toInteger_of_isFalsy hfalsy hinteger
          rw [hn, if_pos rfl]
          exact congrArg Except.ok hzero.symm
      | false =>
          rw [if_neg Bool.false_ne_true, hoffset.numeral, Integer.numeral_natCast (hs n rfl)]

theorem skipped_of_long (hoffset : w.offset.Counts offset) (hlong : ¬Writable offset) :
    (if w.offset.isFalsy then pure "0" else w.offset.toInteger >>= Integer.numeral) =
      .error (.argument .longInteger) := by
  obtain ⟨n, rfl, hn⟩ := exists_of_not_writable hlong
  have hinteger : w.offset.toInteger = .ok (n : Int) := hoffset
  have hfalsy : w.offset.isFalsy ≠ true := by
    intro hfalsy
    have hzero : n = 0 := Int.ofNat_inj.mp (Value.toInteger_of_isFalsy hfalsy hinteger)
    have hpos : 0 < 10 ^ mostDigitsAsText := Nat.pow_pos (by decide)
    omega
  rw [if_neg hfalsy, hoffset.numeral, Integer.numeral_of_long hn]

theorem pageClause_of_counts (d : Dialect) (hlimit : w.limit.Counts limit)
    (hoffset : w.offset.Counts offset) (hs : Writable limit) (hs' : Writable offset) :
    d.pageClause w = .ok (d.pageText limit offset) := by
  rw [pageClause, pageText, offsetFetch_eq, limitOffset_eq, skipped_of_counts hoffset hs',
    Window.numeral?_of_counts hlimit hs, Window.numeral?_of_counts hoffset hs']
  split <;> cases limit <;> cases offset <;> rfl

/-- A limit or an offset that is too long to be written is refused. -/
theorem pageClause_of_long (d : Dialect) (hlimit : w.limit.Counts limit)
    (hoffset : w.offset.Counts offset) (hlong : ¬Writable limit ∨ ¬Writable offset) :
    d.pageClause w = .error (.argument .longInteger) := by
  rw [pageClause, offsetFetch_eq, limitOffset_eq]
  by_cases hoff : Writable offset
  · have hlim : ¬Writable limit := hlong.resolve_right (not_not_intro hoff)
    rw [skipped_of_counts hoffset hoff, Window.numeral?_of_long hlimit hlim]
    split <;> rfl
  · rw [skipped_of_long hoffset hoff, Window.numeral?_of_long hoffset hoff]
    by_cases hlim : Writable limit
    · rw [Window.numeral?_of_counts hlimit hlim]
      split <;> rfl
    · rw [Window.numeral?_of_long hlimit hlim]
      split <;> rfl

end Counts

/-! ## The clauses as words -/

/-- A numeral ends its part of a clause. -/
theorem textWords_numeral {lead : String} (h : endsOpen lead.toList = true) (n : Nat) :
    textWords (lead ++ intText n).toList = textWords lead.toList ++ [.symbol (intText n)] := by
  rw [String.toList_append, textWords_append (.inl h), textWords_intText]

def offsetWords (offset : Option Nat) : List Word :=
  offset.elim [] fun n => [.symbol "OFFSET", .symbol (intText n)]

def fetchWords (limit : Option Nat) : List Word :=
  limit.elim [] fun n =>
    [.symbol "FETCH", .symbol "NEXT", .symbol (intText n), .symbol "ROWS", .symbol "ONLY"]

theorem textWords_limitClause (n : Nat) :
    textWords (limitClause (intText n)).toList = [.symbol "LIMIT", .symbol (intText n)] := by
  have hlead : textWords " LIMIT ".toList = [.symbol "LIMIT"] := by decide
  rw [limitClause, textWords_numeral (by decide), hlead]
  rfl

theorem textWords_offsetClause (n : Nat) :
    textWords (offsetClause (intText n)).toList = [.symbol "OFFSET", .symbol (intText n)] := by
  have hlead : textWords " OFFSET ".toList = [.symbol "OFFSET"] := by decide
  rw [offsetClause, textWords_numeral (by decide), hlead]
  rfl

/-- No word reaches over into the offset. -/
theorem textWords_append_offsetText (lead : String) (offset : Option Nat) :
    textWords (lead ++ offsetText offset).toList =
      textWords lead.toList ++ offsetWords offset := by
  cases offset with
  | none => simp [offsetText, offsetWords]
  | some n =>
      have happart : opensApart (offsetClause (intText n)).toList = true := by
        rw [offsetClause, String.toList_append]
        rfl
      rw [offsetText, Option.elim_some, String.toList_append, textWords_append (.inr happart),
        textWords_offsetClause]
      rfl

theorem textWords_append_fetchText (lead : String) (limit : Option Nat) :
    textWords (lead ++ fetchText limit).toList = textWords lead.toList ++ fetchWords limit := by
  cases limit with
  | none => simp [fetchText, fetchWords]
  | some n =>
      have happart : opensApart (" FETCH NEXT " ++ intText n ++ " ROWS ONLY").toList = true := by
        rw [String.toList_append, String.toList_append]
        rfl
      have hlead : textWords " FETCH NEXT ".toList = [.symbol "FETCH", .symbol "NEXT"] := by decide
      have hlast : textWords " ROWS ONLY".toList = [.symbol "ROWS", .symbol "ONLY"] := by decide
      rw [fetchText, Option.elim_some, String.toList_append, textWords_append (.inr happart),
        String.toList_append, textWords_append (.inr (by decide)), textWords_numeral (by decide),
        hlead, hlast]
      rfl

/-! ## Reading them back -/

theorem skipped?_offsetWords (offset : Option Nat) :
    skipped? (offsetWords offset) = some (offset.getD 0) := by
  cases offset with
  | none => rfl
  | some n => exact Word.number?_intText n

theorem fetched?_fetchWords (limit : Option Nat) : fetched? (fetchWords limit) = some limit := by
  cases limit with
  | none => rfl
  | some n => simp [fetchWords, fetched?, Word.number?_intText]

/-- How many rows the limit asks for that stands in for a missing one. -/
def mostRows? : Dialect → Option Nat
  | mySql => some 18446744073709551615
  | _ => none

/-- What stands in for a missing limit asks for so many rows. -/
theorem limitOffset?_unboundedLimit {d : Dialect} {n : String} (h : d.unboundedLimit? = some n)
    (rest : List Word) :
    d.limitOffset? (textWords (limitClause n).toList ++ rest) =
      (skipped? rest).map (⟨·, d.mostRows?⟩) := by
  cases d with
  | mySql =>
      obtain rfl : "18446744073709551615" = n := Option.some.inj h
      have hwords : textWords (limitClause "18446744073709551615").toList =
        [.symbol "LIMIT", .symbol "18446744073709551615"] := by decide
      have hnumber : (Word.symbol "18446744073709551615").number? = some 18446744073709551615 := by
        decide
      simp [hwords, limitOffset?, bound?, hnumber, mostRows?]
  | sqlite =>
      obtain rfl : "-1" = n := Option.some.inj h
      have hwords : textWords (limitClause "-1").toList =
        [.symbol "LIMIT", .symbol "-", .symbol "1"] := by decide
      have hsign : (Word.symbol "-").number? = none := by decide
      have hnumber : (Word.symbol "1").number? = some 1 := by decide
      simp [hwords, limitOffset?, bound?, hsign, hnumber, mostRows?]
  | _ => contradiction

theorem page?_pageText (d : Dialect) (limit offset : Option Nat) :
    d.page? (textWords (d.pageText limit offset).toList) =
      some ⟨offset.getD 0, limit.or d.mostRows?⟩ := by
  by_cases hd : d = sqlServer
  · subst hd
    have hrows : textWords " ROWS".toList = [.symbol "ROWS"] := by decide
    rw [pageText, if_pos rfl, textWords_append_fetchText, String.toList_append,
      textWords_append (.inr (by decide)), textWords_offsetClause, hrows]
    simp [page?, offsetFetch?, Word.number?_intText, fetched?_fetchWords, mostRows?]
  · have hpage (ws : List Word) : d.page? ws = d.limitOffset? ws := by
      cases d <;> first | rfl | contradiction
    rw [hpage, pageText, if_neg hd, textWords_append_offsetText]
    cases limit with
    | some n =>
        rw [limitText, Option.elim_some, textWords_limitClause]
        simp [limitOffset?, bound?, Word.number?_intText, skipped?_offsetWords]
    | none =>
        rw [limitText, Option.elim_none, Option.none_or]
        cases hall : d.unboundedLimit? with
        | some n => 
            rw [Option.elim_some, limitOffset?_unboundedLimit hall, skipped?_offsetWords]
            rfl
        | none =>
            obtain rfl : d = postgres := by cases d <;> simp_all [unboundedLimit?]
            have hskipped : postgres.limitOffset? (offsetWords offset) =
                (skipped? (offsetWords offset)).map (⟨·, none⟩) := by
              cases offset <;> rfl
            rw [Option.elim_none, show textWords "".toList = [] from rfl, List.nil_append, hskipped,
              skipped?_offsetWords]
            rfl

/-! ## The page -/

theorem isPlain_pageText {w : Window} {clause : String} (d : Dialect)
    (h : d.pageClause w = .ok clause) : isPlain clause.toList = true := by
  unfold pageClause at h
  split at h
  · exact isPlain_offsetFetch h
  · exact isPlain_limitOffset h

theorem isOpen_iff {w : Window} {limit offset : Option Nat} (hlimit : w.limit.Counts limit)
    (hoffset : w.offset.Counts offset) : w.isOpen = true ↔ limit = none ∧ offset = none := by
  simp [Window.isOpen, hlimit.eq_null_iff, hoffset.eq_null_iff]

theorem isOpen_eq_false {w : Window} {limit offset : Option Nat} (hlimit : w.limit.Counts limit)
    (hoffset : w.offset.Counts offset) (h : limit ≠ none ∨ offset ≠ none) : w.isOpen = false := by
  rw [Bool.eq_false_iff, ne_eq, isOpen_iff hlimit hoffset]
  rintro ⟨hl, ho⟩
  exact h.elim (· hl) (· ho)

/-- The rows on the page that a clause asks for, where the limit that stands in for a missing one is no
smaller than the result. -/
theorem rows_mostRows? {α : Type} (d : Dialect) (limit : Option Nat) (skipped : Nat)
    {result : List α} (h : limit = none → ∀ n ∈ d.mostRows?, result.length ≤ n) :
    Page.rows ⟨skipped, limit.or d.mostRows?⟩ result =
      limit.elim id List.take (result.drop skipped) := by
  cases limit with
  | some n => rfl
  | none =>
      rw [Page.rows, Option.none_or, Option.elim_none, id]
      cases hmost : d.mostRows? with
      | none => rfl
      | some n =>
          have hlength : (result.drop skipped).length ≤ n := by
            rw [List.length_drop]
            exact (Nat.sub_le ..).trans (h rfl n hmost)
          exact List.take_of_length_le hlength

/-- With a page of natural numbers, whatever else is asked for, the clause behind the statement and its
order is read by the grammar of the product, and keeps of any result the rows behind the offset, as many
as the limit says. Without limit and offset nothing is added, and a number that is too long to be written
is refused. -/
theorem paginate_rows (d : Dialect) (sql : String) (order : Option String) {w : Window}
    {limit offset : Option Nat} (hlimit : w.limit.Counts limit)
    (hoffset : w.offset.Counts offset) :
    (limit = none → offset = none → d.paginate sql order w = .ok sql) ∧
    (limit ≠ none ∨ offset ≠ none → Writable limit → Writable offset →
      ∃ clause p, d.paginate sql order w = .ok (sql ++ d.ordering sql order ++ clause) ∧
        d.page? (Sql.words clause) = some p ∧
        ∀ (α : Type) (result : List α),
          (d = mySql → limit = none → result.length ≤ 18446744073709551615) →
          p.rows result = limit.elim id List.take (result.drop (offset.getD 0))) ∧
    (¬Writable limit ∨ ¬Writable offset → d.paginate sql order w = .error (.argument .longInteger)) := by
  refine ⟨fun hl ho => ?_, fun hgiven hs hs' => ?_, fun hlong => ?_⟩
  · rw [paginate, if_pos ((isOpen_iff hlimit hoffset).mpr ⟨hl, ho⟩)]
  · have hclause := d.pageClause_of_counts hlimit hoffset hs hs'
    refine ⟨d.pageText limit offset, ⟨offset.getD 0, limit.or d.mostRows?⟩, ?_, ?_, ?_⟩
    · rw [paginate_of_not_isOpen d sql order (isOpen_eq_false hlimit hoffset hgiven), hclause]
      rfl
    · rw [words_of_isPlain (d.isPlain_pageText hclause), page?_pageText]
    · intro α result hmost
      refine rows_mostRows? d limit _ fun hl n hn => ?_
      cases d <;> cases hn
      exact hmost rfl hl
  · have hgiven : limit ≠ none ∨ offset ≠ none :=
      hlong.imp (fun h he => h (he ▸ writable_none)) (fun h he => h (he ▸ writable_none))
    rw [paginate_of_not_isOpen d sql order (isOpen_eq_false hlimit hoffset hgiven),
      d.pageClause_of_long hlimit hoffset hlong]
    rfl

/-- What is left of three rows behind the first. -/
theorem paginate_rows_second :
    ∃ clause p, Dialect.paginate .mySql "SELECT a FROM t" none ⟨.null, .scalar (.int 1)⟩ =
        .ok ("SELECT a FROM t" ++ clause) ∧
      Dialect.page? .mySql (Sql.words clause) = some p ∧ p.rows ["x", "y", "z"] = ["y", "z"] := by
  have hnull : Value.Counts .null none := rfl
  have hone : Value.Counts (.scalar (.int 1)) (some 1) := rfl
  have hwritable : Writable (some 1) := by
    rintro n ⟨⟩
    exact Nat.one_lt_pow (by decide) (by decide)
  obtain ⟨-, hpage, -⟩ := paginate_rows .mySql "SELECT a FROM t" none
    (w := ⟨.null, .scalar (.int 1)⟩) hnull hone
  obtain ⟨clause, p, hsql, hread, hrows⟩ := hpage (.inr (by simp)) writable_none hwritable
  have horder : ordering .mySql "SELECT a FROM t" none = "" := by simp [ordering, constantOrder?]
  refine ⟨clause, p, ?_, hread, hrows String ["x", "y", "z"] fun _ _ => by decide⟩
  rw [hsql, horder, String.append_empty]

/-- A limit of more digits than a numeral may have is refused. -/
theorem paginate_longLimit :
    ¬∃ clause, Dialect.paginate .sqlite "SELECT 1" none
      ⟨.scalar (.int (10 ^ mostDigitsAsText : Nat)), .null⟩ = .ok ("SELECT 1" ++ clause) := by
  rintro ⟨clause, h⟩
  have hnull : Value.Counts .null none := rfl
  have hlimit : Value.Counts (.scalar (.int (10 ^ mostDigitsAsText : Nat)))
      (some (10 ^ mostDigitsAsText)) := rfl
  have hlong : ¬Writable (some (10 ^ mostDigitsAsText)) := fun hs => Nat.lt_irrefl _ (hs _ rfl)
  rw [paginate_of_not_isOpen _ _ _ (isOpen_eq_false hlimit hnull (.inl (by simp))),
    pageClause_of_long _ hlimit hnull (.inl hlong)] at h
  contradiction

end Dialect

end RelationalMapper
