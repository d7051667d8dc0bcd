import RelationalMapper.Proofs.Action
import RelationalMapper.Proofs.Query.Written

/-! # The statements of a query as they are written

Around its tests and assignments, a statement of a query is written cleanly and binds nothing, as
long as no join condition has two tests side by side and no computed part stands in the
projection. -/

namespace RelationalMapper

open Sql

/-! ## Text without markers -/

/-- The text can be written cleanly and without marks. -/
def Sql.Unmarked (q : Quotes) (text : String) : Prop :=
  ∃ w : Written, w.Clean ∧ .mark ∉ w ∧ Written.chars q w = text.toList

/-- Such a text that does not begin with a name, so that it may stand behind any clean row. -/
def Sql.Trails (q : Quotes) (text : String) : Prop :=
  ∃ w : Written, w.Clean ∧ .mark ∉ w ∧ w.OpensPlain ∧ Written.chars q w = text.toList

theorem Sql.trails_of_isPlain (q : Quotes) (text : String) (h : isPlain text.toList = true) :
    Trails q text := by
  by_cases hne : text = ""
  · exact ⟨[], trivial, List.not_mem_nil, Written.opensPlain_nil, by simp [hne]⟩
  · exact ⟨[.plain text], (Written.clean_plain ..).mpr ⟨hne, h, trivial⟩, by simp,
      (Written.opensPlain_cons ..).mpr rfl, by simp [Fragment.chars]⟩

theorem Sql.Trails.append {q : Quotes} {a b : String} (ha : Trails q a) (hb : Trails q b) :
    Trails q (a ++ b) := by
  obtain ⟨v, hv, hvm, hvo, hvc⟩ := ha
  obtain ⟨w, hw, hwm, hwo, hwc⟩ := hb
  exact ⟨v ++ w, hv.append hw hwo, by simp [hvm, hwm], hvo.append hwo, by simp [hvc, hwc]⟩

/-- Behind plain text, a name may begin. -/
theorem Sql.Unmarked.behind {q : Quotes} {text : String} (h : Unmarked q text) (lead : String)
    (hne : lead ≠ "") (hlead : isPlain lead.toList = true) : Trails q (lead ++ text) := by
  obtain ⟨w, hw, hm, hc⟩ := h
  exact ⟨.plain lead :: w, (Written.clean_plain ..).mpr ⟨hne, hlead, hw⟩, by simp [hm],
    (Written.opensPlain_cons ..).mpr rfl, by simp [hc, Fragment.chars]⟩

theorem Sql.unmarked_quote (d : Dialect) (identifier : String) :
    Unmarked d.quotes (d.quote identifier) :=
  ⟨[.name identifier], (Written.clean_name ..).mpr ⟨Written.opensPlain_nil, trivial⟩, by simp,
    by simp [Fragment.chars]⟩

/-! ## Numerals -/

namespace Number

theorem digitChar_not_special : ∀ d < 10, digitChar d ∉ specials := by decide

theorem natChars_not_special (n : Nat) : ∀ c ∈ natChars n, c ∉ specials := by
  intro c hc
  obtain ⟨d, hd, rfl⟩ := List.mem_map.mp hc
  exact digitChar_not_special d (digits_lt (by decide) n d hd)

theorem isPlain_natChars (n : Nat) : isPlain (natChars n) = true := by
  exact isPlain_of_forall (natChars_not_special n)

theorem natChars_ne_nil (n : Nat) : natChars n ≠ [] := by
  by_cases h : 10 ≤ n
  · simp [natChars, digits_of_le (by decide) h]
  · have hsmall : digits 10 n = [n] := digits_of_not_le (by omega)
    simp [natChars, hsmall]

theorem isPlain_intText (n : Int) : isPlain (intText n).toList = true := by
  rw [intText, String.toList_ofList]
  cases n with
  | ofNat n => exact isPlain_natChars n
  | negSucc n =>
      obtain ⟨c, rest, hcr⟩ := List.exists_cons_of_ne_nil (natChars_ne_nil (n + 1))
      have hplain := isPlain_natChars (n + 1)
      have hspecial := natChars_not_special (n + 1) c (by rw [hcr]; exact List.mem_cons_self)
      have hc : c ≠ '-' := by
        rintro rfl
        exact hspecial (by decide)
      rw [hcr] at hplain
      rw [show intChars (.negSucc n) = '-' :: c :: rest by rw [intChars, hcr]]
      simp [isPlain, hc, hplain]

theorem intText_ne_empty (n : Int) : intText n ≠ "" := by
  cases n with
  | ofNat n => simpa [intText, intChars] using natChars_ne_nil n
  | negSucc n => simp [intText, intChars]

end Number

theorem Integer.numeral_plain {n : Int} {text : String} (h : Integer.numeral n = .ok text) :
    text ≠ "" ∧ isPlain text.toList = true := by
  unfold Integer.numeral at h
  split at h
  · rw [← Except.ok.inj h]
    exact ⟨Number.intText_ne_empty n, Number.isPlain_intText n⟩
  · contradiction

/-! ## Pages -/

namespace Dialect

theorem isPlain_numeral? {v : Value} {n : String} (h : Window.numeral? v = .ok (some n)) :
    isPlain n.toList = true := by
  unfold Window.numeral? at h
  split at h
  · simp at h
  · obtain ⟨text, htext, heq⟩ := map_eq_ok.mp h
    obtain ⟨m, -, hm⟩ := bind_eq_ok.mp htext
    rw [← Option.some.inj heq]
    exact (Integer.numeral_plain hm).2

theorem limitOffset_eq (d : Dialect) (w : Window) :
    d.limitOffset w = do
      let limit ← Window.numeral? w.limit
      let offset ← Window.numeral? w.offset
      return limit.elim (d.unboundedLimit?.elim "" limitClause) limitClause
        ++ offset.elim "" offsetClause := by
  unfold limitOffset
  rcases Window.numeral? w.limit with _ | _ | _ <;>
    rcases Window.numeral? w.offset with _ | _ | _ <;> rfl

theorem offsetFetch_eq (w : Window) :
    offsetFetch w =
      (if w.offset.isFalsy then pure "0" else w.offset.toInteger >>= Integer.numeral) >>=
        fun offset => Window.numeral? w.limit >>= fun limit =>
          pure (offsetClause offset ++ " ROWS"
            ++ limit.elim "" (" FETCH NEXT " ++ · ++ " ROWS ONLY")) := by
  unfold offsetFetch
  by_cases h : w.offset.isFalsy = true
  · rcases hlimit : Window.numeral? w.limit with _ | _ | _ <;> simp [h] <;> rfl
  · rcases hoffset : w.offset.toInteger >>= Integer.numeral with _ | _ <;>
      rcases hlimit : Window.numeral? w.limit with _ | _ | _ <;> simp [h] <;> rfl

theorem isPlain_limitOffset {d : Dialect} {w : Window} {text : String}
    (h : d.limitOffset w = .ok text) : isPlain text.toList = true := by
  rw [limitOffset_eq] at h
  obtain ⟨limit, hlimit, h⟩ := bind_eq_ok.mp h
  obtain ⟨offset, hoffset, h⟩ := bind_eq_ok.mp h
  rw [← Except.ok.inj h, String.toList_append]
  apply isPlain_append
  · cases limit with
    | none => cases d <;> decide
    | some n =>
        rw [Option.elim_some, limitClause, String.toList_append]
        exact isPlain_append (by decide) (isPlain_numeral? hlimit)
  · cases offset with
    | none => rfl
    | some n =>
        rw [Option.elim_some, offsetClause, String.toList_append]
        exact isPlain_append (by decide) (isPlain_numeral? hoffset)

theorem isPlain_offsetFetch {w : Window} {text : String} (h : offsetFetch w = .ok text) :
    isPlain text.toList = true := by
  rw [offsetFetch_eq] at h
  obtain ⟨offset, hoffset, h⟩ := bind_eq_ok.mp h
  obtain ⟨limit, hlimit, h⟩ := bind_eq_ok.mp h
  have hplain : isPlain offset.toList = true := by
    split at hoffset
    · rw [← Except.ok.inj hoffset]
      rfl
    · obtain ⟨m, -, hm⟩ := bind_eq_ok.mp hoffset
      exact (Integer.numeral_plain hm).2
  rw [← Except.ok.inj h]
  simp only [offsetClause, String.toList_append]
  refine isPlain_append (isPlain_append (isPlain_append (by decide) hplain) (by decide)) ?_
  cases limit with
  | none => rfl
  | some n =>
      simp only [Option.elim_some, String.toList_append]
      exact isPlain_append (isPlain_append (by decide) (isPlain_numeral? hlimit)) (by decide)

/-- A page clause is added behind the statement, maybe with an order in front of it. -/
theorem paginate_cases {d : Dialect} {sql out : String} {order : Option String} {w : Window}
    (h : d.paginate sql order w = .ok out) :
    out = sql ∨ ∃ page, (d.limitOffset w = .ok page ∨ offsetFetch w = .ok page) ∧
      (out = sql ++ page ∨ ∃ terms, (terms ∈ order ∨ terms = "(SELECT 1)") ∧
        out = sql ++ (" ORDER BY " ++ terms ++ page)) := by
  have hgiven {terms : String} (hterms : order.filter (· ≠ "") = some terms) : terms ∈ order :=
    (Option.filter_eq_some_iff.mp hterms).1
  unfold paginate at h
  split at h
  · exact .inl (Except.ok.inj h).symm
  · refine .inr ?_
    split at h
    · obtain ⟨page, hpage, h⟩ := bind_eq_ok.mp h
      rw [← Except.ok.inj h]
      refine ⟨page, .inr hpage, ?_⟩
      split
      · exact .inl rfl
      · refine .inr ⟨(order.filter (· ≠ "")).getD "(SELECT 1)", ?_, by simp [String.append_assoc]⟩
        cases hterms : order.filter (· ≠ "") with
        | none => exact .inr rfl
        | some terms => exact .inl (hgiven hterms)
    · obtain ⟨page, hpage, h⟩ := bind_eq_ok.mp h
      rw [← Except.ok.inj h]
      refine ⟨page, .inl hpage, ?_⟩
      split
      · rename_i terms hterms
        split
        · exact .inl rfl
        · exact .inr ⟨terms, .inl (hgiven hterms), by simp [String.append_assoc]⟩
      · exact .inl rfl

theorem paginate_trails {d : Dialect} {sql out : String} {order : Option String} {w : Window}
    (horder : ∀ terms ∈ order, Unmarked d.quotes terms) (h : d.paginate sql order w = .ok out) :
    ∃ page, Trails d.quotes page ∧ out = sql ++ page := by
  rcases paginate_cases h with rfl | ⟨page, hpage, hout⟩
  · exact ⟨"", trails_of_isPlain _ _ rfl, by simp⟩
  · have htrails : Trails d.quotes page :=
      trails_of_isPlain _ _ (hpage.elim isPlain_limitOffset isPlain_offsetFetch)
    rcases hout with rfl | ⟨terms, hterms, rfl⟩
    · exact ⟨page, htrails, rfl⟩
    · have hunmarked : Unmarked d.quotes terms := by
        rcases hterms with hterms | rfl
        · exact horder terms hterms
        · exact ⟨[.plain "(SELECT 1)"], by simp; decide, by simp, by simp [Fragment.chars]⟩
      exact ⟨_, (hunmarked.behind _ (by decide) (by decide)).append htrails, rfl⟩

end Dialect

end RelationalMapper
