import RelationalMapper.Dialect.ColumnType
import RelationalMapper.Proofs.Dialect.ArgumentList
import RelationalMapper.Proofs.Number.Numeral

/-! # Sizes of column types

The types of the dialects have one list of arguments at most, and so has an override that takes the
size of its column. An override with a list of its own keeps it; a precision with a scale then stands
behind it in a second one. -/

namespace RelationalMapper

open Text Number

/-- The override stands in front of a precision and a scale. -/
def ColumnDetail.IsScaled (detail : ColumnDetail) : Prop := 0 < detail.precision ∧ 0 ≤ detail.scale

instance (detail : ColumnDetail) : Decidable detail.IsScaled := inferInstanceAs (Decidable (_ ∧ _))

/-- The override in capitals, without blanks around it. -/
def ColumnDetail.raisedType (detail : ColumnDetail) : String := upper (trim detail.type)

namespace Dialect

/-! ## Numerals -/

def numeralChars : List Char := "-,0123456789".toList

theorem of_mem_numeralChars {c : Char} (h : c ∈ numeralChars) : isSign c = true ∧ c ∉ delimiters := by
  have key : numeralChars.all (fun c => isSign c = true ∧ c ∉ delimiters) = true := by decide
  exact of_decide_eq_true (List.all_eq_true.mp key c h)

theorem intText_subset (n : Int) : (intText n).toList ⊆ numeralChars := by
  have hdigits : ∀ d < 10, digitChar d ∈ numeralChars := by decide
  have hnatural (n : Nat) : natChars n ⊆ numeralChars := fun c hc => by
    obtain ⟨d, hd, rfl⟩ := mem_natChars hc
    exact hdigits d hd
  rw [intText, String.toList_ofList]
  cases n with
  | ofNat n => exact hnatural n
  | negSucc n => exact List.cons_subset.mpr ⟨by decide, hnatural (n + 1)⟩

/-- A precision and a scale as they stand in a list. -/
def scaleText (precision scale : Int) : String := intText precision ++ "," ++ intText scale

theorem scaleText_subset (precision scale : Int) :
    (scaleText precision scale).toList ⊆ numeralChars := by
  simp only [scaleText, String.toList_append, List.append_subset]
  exact ⟨⟨intText_subset precision, by decide⟩, intText_subset scale⟩

theorem paired_of_subset {text : List Char} (h : text ⊆ numeralChars) : Paired true text :=
  .of_plain true fun _ hc => (of_mem_numeralChars (h hc)).2

theorem scaleText_upper (precision scale : Int) :
    (scaleText precision scale).toList.flatMap upperChar = (scaleText precision scale).toList :=
  flatMap_upperChar_of_isSign fun _ hc => (of_mem_numeralChars (scaleText_subset _ _ hc)).1

/-! ## Types with a size -/

variable {d : Dialect} {native : Option NativeType} {detail : ColumnDetail} {user name : String}
  {lists : List (List Char)} {arguments : List Char}

theorem hasLists_sized (h : HasLists name []) (length : Int) :
    HasLists (sized name length) [(intText length).toList] :=
  h.append (paired_of_subset (intText_subset length))

theorem hasLists_scaled (h : HasLists name lists) (precision scale : Int) :
    HasLists (name ++ "(" ++ intText precision ++ "," ++ intText scale ++ ")")
      (lists ++ [(scaleText precision scale).toList]) := by
  have hlist := h.append (paired_of_subset (scaleText_subset precision scale))
  simpa only [scaleText, String.append_assoc] using hlist

theorem length_le_one (h : HasLists name lists) (hle : lists.length ≤ 1) :
    (argumentLists name).length ≤ 1 := by
  rwa [h.argumentLists_eq]

theorem sized_lists (h : HasLists name []) (length : Int) :
    (argumentLists (sized name length)).length ≤ 1 :=
  length_le_one (hasLists_sized h length) le_rfl

theorem decimal_lists (d : Dialect) (precision scale : Int) :
    (argumentLists (scaled d.decimalName precision scale)).length ≤ 1 := by
  have hname : HasLists d.decimalName [] := by cases d <;> rfl
  exact length_le_one (hasLists_scaled hname precision (max 0 scale)) le_rfl

/-! ## Types without an override -/

theorem ownType?_lists (d : Dialect) (t : NativeType) :
    ∀ name ∈ d.ownType? t, (argumentLists name).length ≤ 1 := by
  cases d <;> cases t <;> decide +kernel

theorem fallbackType_lists (d : Dialect) : (argumentLists d.fallbackType).length ≤ 1 := by
  cases d <;> decide +kernel

theorem sizedTextType_lists (d : Dialect) (length : Int) :
    (argumentLists (d.sizedTextType length)).length ≤ 1 := by
  have hname : HasLists "VARCHAR" [] := rfl
  have hnational : HasLists "NVARCHAR" [] := rfl
  cases d with
  | sqlServer => exact sized_lists hnational length
  | mySql | postgres | sqlite => exact sized_lists hname length

theorem plainType_lists (d : Dialect) (native : Option NativeType) (length : Int) :
    (argumentLists (d.plainType native length)).length ≤ 1 := by
  unfold plainType
  split
  · exact d.sizedTextType_lists length
  · cases hbuiltin : native.bind d.builtinType? with
    | none => exact d.fallbackType_lists
    | some name =>
        obtain ⟨t, -, htype⟩ := Option.bind_eq_some_iff.mp hbuiltin
        obtain ⟨ancestor, -, hown⟩ := List.exists_of_findSome?_eq_some htype
        exact d.ownType?_lists ancestor name hown

theorem userType?_eq (detail : ColumnDetail) :
    detail.userType? = if detail.raisedType = "" then none else some detail.raisedType := rfl

theorem columnType_lists_of_blank (h : detail.raisedType = "") :
    (argumentLists (d.columnType native detail)).length ≤ 1 := by
  have hnone : detail.userType? = none := by rw [userType?_eq, if_pos h]
  have hdecimal := d.decimal_lists detail.precision detail.scale
  have hplain := d.plainType_lists native detail.length
  have hnumeric : (argumentLists "NUMERIC").length ≤ 1 := by decide +kernel
  have htext : (argumentLists "TEXT").length ≤ 1 := by decide +kernel
  unfold columnType
  rw [hnone]
  by_cases hprecision : 0 < detail.precision
  · simp only [if_pos hprecision]
    cases d with
    | sqlite => exact hnumeric
    | mySql | postgres | sqlServer => exact hdecimal
  · simp only [if_neg hprecision]
    cases d with
    | sqlite =>
        simp only
        split
        · exact htext
        · exact hplain
    | mySql | postgres | sqlServer => exact hplain

/-! ## Overrides -/

theorem columnType_of_override (h : detail.raisedType ≠ "") :
    d.columnType native detail = d.override detail.raisedType detail := by
  unfold columnType
  rw [userType?_eq, if_neg h]

theorem type_ne_of_raisedType (h : detail.raisedType ≠ "") : detail.type ≠ "" := by
  intro hempty
  rw [ColumnDetail.raisedType, hempty] at h
  exact h (by decide)

theorem hasLists_effectiveType (hne : detail.type ≠ "") (h : HasLists detail.type lists) :
    HasLists detail.effectiveType (lists ++
      if detail.IsScaled then [(scaleText detail.precision detail.scale).toList] else []) := by
  unfold ColumnDetail.effectiveType
  by_cases hscaled : detail.IsScaled
  · rw [if_pos ⟨hne, hscaled.1, hscaled.2⟩, if_pos hscaled]
    exact hasLists_scaled h detail.precision detail.scale
  · rw [if_neg fun hall => hscaled hall.2, if_neg hscaled, List.append_nil]
    exact h

/-- A storage class has no size; where there is none the override stays. -/
theorem override_sqlite (user : String) (detail : ColumnDetail) :
    HasLists (sqlite.override user detail) [] ∨ sqlite.override user detail = user := by
  have hclasses : ∀ entry ∈ affinities, HasLists entry.2 [] := by decide +kernel
  unfold override
  cases hlookup : affinities.lookup (bareName user) with
  | none => exact .inr rfl
  | some storage =>
      obtain ⟨front, rest, hentries, -⟩ := List.lookup_eq_some_iff.mp hlookup
      exact .inl (hclasses (bareName user, storage) (hentries ▸ by simp))

section Bare

variable (hne : detail.type ≠ "") (htype : HasLists detail.type []) (huser : HasLists user [])
include hne htype huser

theorem commonOverride_lists : (argumentLists (d.commonOverride user detail)).length ≤ 1 := by
  unfold commonOverride
  split
  · exact sized_lists huser detail.length
  · split
    · exact d.decimal_lists detail.precision detail.scale
    · refine length_le_one (hasLists_effectiveType hne htype).trim.upper ?_
      split <;> simp

/-- A bare override takes one size at most. -/
theorem override_lists : (argumentLists (d.override user detail)).length ≤ 1 := by
  cases d with
  | mySql => exact commonOverride_lists hne htype huser
  | postgres =>
      simp only [override]
      split
      · exact sized_lists huser detail.length
      · exact commonOverride_lists hne htype huser
  | sqlServer =>
      simp only [override]
      split
      · refine sized_lists ?_ detail.length
        split <;> rfl
      · exact commonOverride_lists hne htype huser
  | sqlite =>
      rcases override_sqlite user detail with hnone | hsame
      · exact length_le_one hnone (Nat.zero_le 1)
      · rw [hsame]
        exact length_le_one huser (Nat.zero_le 1)

end Bare

/-- An override with a size of its own is no bare type. -/
theorem override_of_listed (hd : d ≠ sqlite) (h : HasLists user (arguments :: lists)) :
    d.override user detail = upper (trim detail.effectiveType) := by
  have hbracket : contains "(" user = true := by
    obtain ⟨front, rest, htext⟩ := List.append_of_mem h.mem_bracket
    rw [contains, occursIn_iff]
    exact ⟨front, rest, by rw [htext]; simp⟩
  have hbare : isBareCharacterType user = false := by simp [isBareCharacterType, hbracket]
  have hnone {names : List String} (hnames : ∀ name ∈ names, HasLists name []) : user ∉ names :=
    fun hmem => List.cons_ne_nil _ _ (h.unique (hnames user hmem))
  have hcharacter : user ∉ ["CHAR", "VARCHAR"] := hnone (by decide +kernel)
  have hdecimal : user ∉ ["DECIMAL", "NUMERIC"] := hnone (by decide +kernel)
  have hcommon : d.commonOverride user detail = upper (trim detail.effectiveType) := by
    rw [commonOverride, if_neg fun hall => hcharacter hall.1, if_neg fun hall => hdecimal hall.1]
  cases d with
  | mySql => exact hcommon
  | postgres | sqlServer => simpa [override, hbare] using hcommon
  | sqlite => exact absurd rfl hd

section Listed

variable (h : HasLists detail.type [arguments])
include h

theorem raisedType_ne_of_listed : detail.raisedType ≠ "" := by
  intro hempty
  have hbracket := h.trim.upper.mem_bracket
  rw [show upper (trim detail.type) = "" from hempty] at hbracket
  simp at hbracket

theorem columnType_sqlite_of_listed :
    argumentLists (sqlite.columnType native detail) = [] ∨
      argumentLists (sqlite.columnType native detail) = [arguments.flatMap upperChar] := by
  rw [columnType_of_override (raisedType_ne_of_listed h)]
  rcases override_sqlite detail.raisedType detail with hnone | hsame
  · exact .inl hnone.argumentLists_eq
  · rw [hsame]
    exact .inr h.trim.upper.argumentLists_eq

theorem columnType_of_listed (hd : d ≠ sqlite) :
    d.columnType native detail = upper (trim detail.effectiveType) :=
  (columnType_of_override (raisedType_ne_of_listed h)).trans (override_of_listed hd h.trim.upper)

theorem columnType_lists_of_listed (hd : d ≠ sqlite) :
    argumentLists (d.columnType native detail) = arguments.flatMap upperChar ::
      if detail.IsScaled then [(scaleText detail.precision detail.scale).toList] else [] := by
  have hne := type_ne_of_raisedType (raisedType_ne_of_listed h)
  have hlists := (hasLists_effectiveType hne h).trim.upper.argumentLists_eq
  rw [columnType_of_listed h hd, hlists]
  split <;> simp [scaleText_upper]

/-- Without a precision the override stays. -/
theorem userType?_eq_columnType (hd : d ≠ sqlite) (hscaled : ¬detail.IsScaled) :
    detail.userType? = some (d.columnType native detail) := by
  rw [columnType_of_listed h hd, ColumnDetail.effectiveType, if_neg fun hall => hscaled hall.2,
    userType?_eq, if_neg (raisedType_ne_of_listed h), ColumnDetail.raisedType]

end Listed

/-! ## Column types -/

/-- The type of a column has one list of arguments at most, unless a precision and a scale stand behind
an override with a list of its own. That list stays as the override has it, up to capitals; SQLite may
drop it with the name. -/
theorem columnType_argumentLists (d : Dialect) (native : Option NativeType) (detail : ColumnDetail)
    (stated : Option (List Char)) (h : TypeText detail.type.toList stated) :
    ((argumentLists (d.columnType native detail)).length ≤ 1 ↔
      ¬(d ≠ sqlite ∧ stated.isSome = true ∧ detail.IsScaled)) ∧
    ∀ arguments, stated = some arguments →
      (d = sqlite → argumentLists (d.columnType native detail) = [] ∨
        argumentLists (d.columnType native detail) = [arguments.flatMap upperChar]) ∧
      (d ≠ sqlite → argumentLists (d.columnType native detail) = arguments.flatMap upperChar ::
        if detail.IsScaled then [(scaleText detail.precision detail.scale).toList] else []) ∧
      (d ≠ sqlite → ¬detail.IsScaled → detail.userType? = some (d.columnType native detail)) := by
  have hlists := HasLists.of_typeText h
  cases stated with
  | none =>
      refine ⟨⟨fun _ hscaled => by simp at hscaled, fun _ => ?_⟩, fun _ hnone => by cases hnone⟩
      by_cases hblank : detail.raisedType = ""
      · exact columnType_lists_of_blank hblank
      · rw [columnType_of_override hblank]
        exact override_lists (type_ne_of_raisedType hblank) hlists hlists.trim.upper
  | some arguments =>
      refine ⟨?_, fun stated hstated => ?_⟩
      · by_cases hd : d = sqlite
        · subst hd
          refine ⟨fun _ hscaled => hscaled.1 rfl, fun _ => ?_⟩
          rcases columnType_sqlite_of_listed hlists with hnone | hone
          · rw [hnone]
            exact Nat.zero_le 1
          · rw [hone]
            exact le_rfl
        · rw [columnType_lists_of_listed hlists hd]
          by_cases hscaled : detail.IsScaled <;> simp [hd, hscaled]
      · obtain rfl := Option.some.inj hstated
        exact ⟨fun hd => hd ▸ columnType_sqlite_of_listed hlists, columnType_lists_of_listed hlists,
          userType?_eq_columnType hlists⟩

/-- A list of texts, one of which has a bracket in it. -/
theorem columnType_argumentLists_enumeration :
    let detail : ColumnDetail := { property := "state", name := "state", type := "enum('a)', 'b')" }
    TypeText detail.type.toList (some "'a)', 'b'".toList) ∧
      ¬(mySql ≠ sqlite ∧ (some "'a)', 'b'".toList).isSome = true ∧ detail.IsScaled) ∧
      (argumentLists (mySql.columnType (some .text) detail)).length ≤ 1 ∧
      argumentLists (mySql.columnType (some .text) detail) = ["'A)', 'B'".toList] := by
  intro detail
  have hspelled : detail.type.toList = "enum".toList ++ ('(' :: "'a)', 'b'".toList ++ [')']) ++ [] :=
    by decide +kernel
  have htext : TypeText detail.type.toList (some "'a)', 'b'".toList) := by
    rw [hspelled]
    refine .listed (.of_plain false (plain_of_all (by decide))) ?_ .nil
    have hfirst : TextMark.apostrophe.char ∉ "a)".toList := by decide
    have hsecond : TextMark.apostrophe.char ∉ ['b'] := by decide
    exact .quoted hfirst (.char (by decide) (.char (by decide) (.quoted hsecond .nil)))
  have hplain : ¬detail.IsScaled := by decide
  obtain ⟨hone, hlisted⟩ := columnType_argumentLists mySql (some .text) detail _ htext
  have hmany : ¬(mySql ≠ sqlite ∧ (some "'a)', 'b'".toList).isSome = true ∧ detail.IsScaled) :=
    fun hall => hplain hall.2.2
  refine ⟨htext, hmany, hone.mpr hmany, ?_⟩
  have hother := (hlisted _ rfl).2.1 (by decide)
  rw [if_neg hplain] at hother
  exact hother

/-- An override with a size gets a second one where the column has a precision and a scale too. -/
theorem decimal_sized_twice :
    let detail : ColumnDetail :=
      { property := "price", name := "price", type := "DECIMAL(10,2)", precision := 12, scale := 3 }
    TypeText detail.type.toList (some "10,2".toList) ∧
      mySql.columnType (some .decimal) detail = "DECIMAL(10,2)(12,3)" ∧
      argumentLists (mySql.columnType (some .decimal) detail) = ["10,2".toList, "12,3".toList] ∧
      ¬(argumentLists (mySql.columnType (some .decimal) detail)).length ≤ 1 := by
  intro detail
  have hspelled : detail.type.toList = "DECIMAL".toList ++ ('(' :: "10,2".toList ++ [')']) ++ [] := by
    decide +kernel
  have htext : TypeText detail.type.toList (some "10,2".toList) := by
    rw [hspelled]
    exact .listed (.of_plain false (plain_of_all (by decide))) (.of_plain true (plain_of_all (by decide)))
      .nil
  exact ⟨htext, by decide +kernel, by decide +kernel, by decide +kernel⟩

end Dialect

end RelationalMapper
