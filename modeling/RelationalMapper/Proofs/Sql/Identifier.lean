import RelationalMapper.Proofs.Dialect.Written
import RelationalMapper.Proofs.Sql.Protection

/-! # Quoted names, as they are read

A name comes back out of its quotes, whatever it holds and whatever the style. In front of other text
it is a token of its own, unless that text begins with the closing mark and has another one further
on. -/

namespace RelationalMapper

namespace Sql

/-! ## Out of the quotes -/

theorem unquote_quote {q : Quotes} (hq : q ∈ Quotes.all) (name : String) :
    unquote (q.quote name) = .ok name := by
  rw [unquote, Quotes.quote, String.toList_ofList, findSome?_unquoteChars? hq]
  exact congrArg Except.ok String.ofList_toList

/-! ## In front of other text -/

theorem exists_quotedBody? {mark : Char} {s : List Char} (h : mark ∈ s) :
    ∃ body after, quotedBody? mark s = some (body, after) := by
  fun_induction quotedBody? mark s with
  | case1 => simp at h
  | case2 c rest hc ih =>
      obtain ⟨body, after, hbody⟩ := ih (List.mem_of_ne_of_mem (Ne.symm hc) h)
      exact ⟨c :: body, after, by rw [hbody]; rfl⟩
  | case3 c => exact ⟨_, _, rfl⟩
  | case4 c => exact ⟨_, _, rfl⟩
  | case5 c => exact ⟨_, _, rfl⟩
  | case6 c => exact ⟨_, _, rfl⟩

/-- Behind a quoted name its closing mark is read as another token just if it stands there alone: with
a further one it would begin a doubled mark. -/
theorem scan_quoteChars_append_closing {q : Quotes} (hq : q ∈ Quotes.all) (name more : List Char) :
    scan (q.quoteChars name ++ q.closing :: more) =
        ⟨.quotedIdentifier, q.quoteChars name⟩ :: scan (q.closing :: more) ↔
      q.closing ∉ more := by
  have hlexeme {body after : List Char}
      (hbody : quotedBody? q.closing (q.closing :: q.closing :: more) = some (body, after)) :
      scan (q.quoteChars name ++ q.closing :: more) =
        ⟨.quotedIdentifier, q.opening :: (Text.doubled q.closing name ++ body)⟩ :: scan after := by
    have hlex := lexeme?_opening hq (Text.doubled q.closing name ++ q.closing :: q.closing :: more)
    rw [quotedBody?_doubled_append name hbody] at hlex
    rw [← List.singleton_append (l := Text.doubled q.closing name ++ body), ← scan_cons_of_some hlex]
    simp [Quotes.quoteChars]
  by_cases hmore : q.closing ∈ more
  · obtain ⟨body, after, hbody⟩ := exists_quotedBody? hmore
    have hpair : quotedBody? q.closing (q.closing :: q.closing :: more) =
        some (q.closing :: q.closing :: body, after) := by
      simp [quotedBody?, hbody]
    rw [hlexeme hpair]
    simp [hmore, Quotes.quoteChars]
  · have hpair : quotedBody? q.closing (q.closing :: q.closing :: more) =
        some ([q.closing], q.closing :: more) := by
      simp [quotedBody?, quotedBody?_eq_none hmore]
    rw [hlexeme hpair]
    simp [hmore, Quotes.quoteChars]

end Sql

namespace Dialect

open Sql

theorem quoteBy_name (d : Dialect) (name : String) : quoteBy d.name name = .ok (d.quote name) := by
  cases d <;> rfl

/-- A quoted name is read back. In front of a text that does not begin with the closing mark it is one
token, and the text is read as it is on its own; in front of another text just if that has no closing
mark behind the first. -/
theorem quote_lossless (d : Dialect) (name : String) :
    quoteBy d.name name = .ok (d.quote name) ∧ unquote (d.quote name) = .ok name ∧
      ∀ text : String,
        (text.toList.head? ≠ some d.quotes.closing →
          tokenize (d.quote name ++ text) =
            ⟨.quotedIdentifier, (d.quote name).toList⟩ :: tokenize text) ∧
        (text.toList.head? = some d.quotes.closing →
          (tokenize (d.quote name ++ text) =
              ⟨.quotedIdentifier, (d.quote name).toList⟩ :: tokenize text ↔
            d.quotes.closing ∉ text.toList.tail)) := by
  have hquotes := d.quotes_mem_all
  refine ⟨d.quoteBy_name name, Sql.unquote_quote hquotes name, fun text => ?_⟩
  rw [tokenize, tokenize, String.toList_append, toList_quote]
  constructor
  · exact scan_quoteChars_append hquotes name.toList
  · intro hhead
    obtain ⟨more, hmore⟩ := List.head?_eq_some_iff.mp hhead
    rw [hmore, List.tail_cons]
    exact scan_quoteChars_append_closing hquotes name.toList more

/-- A name with the marks of every style, a marker, a percent sign and a new line. -/
def hostileName : String := "a\x60?\"%]\n\x60"

theorem quote_lossless_hostile :
    " = ?".toList.head? ≠ some '\x60' ∧ "\x60".toList.head? = some '\x60' ∧
      unquote (mySql.quote hostileName) = .ok hostileName ∧
      tokenize (mySql.quote hostileName ++ " = ?") =
        [⟨.quotedIdentifier, (mySql.quote hostileName).toList⟩, ⟨.text, [' ', '=', ' ']⟩,
          ⟨.marker, ['?']⟩] ∧
      tokenize (mySql.quote hostileName ++ "\x60") =
        [⟨.quotedIdentifier, (mySql.quote hostileName).toList⟩, ⟨.text, ['\x60']⟩] := by
  have htext : " = ?".toList.head? ≠ some '\x60' := by decide
  have hmark : "\x60".toList.head? = some '\x60' := by decide
  obtain ⟨-, hread, htokens⟩ := quote_lossless mySql hostileName
  refine ⟨htext, hmark, hread, ?_, ?_⟩
  · rw [(htokens " = ?").1 htext]
    have hrest : tokenize " = ?" = [⟨.text, [' ', '=', ' ']⟩, ⟨.marker, ['?']⟩] := by
      decide +kernel
    rw [hrest]
  · rw [((htokens "\x60").2 hmark).mpr (by decide)]
    have hrest : tokenize "\x60" = [⟨.text, ['\x60']⟩] := by decide +kernel
    rw [hrest]

end Dialect

end RelationalMapper
