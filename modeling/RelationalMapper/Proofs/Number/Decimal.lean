import RelationalMapper.Proofs.Number.Numeral

/-! # Decimals read back

The text of a decimal has its sign, its coefficient with all trailing zeros and its exponent, whether it
is positional or has an exponent. Reading the text gives the decimal again, and every decimal that
exists at all is one that some text denotes. -/

namespace RelationalMapper.Number.Decimal

/-- A number within the limits of the exponent; the diagnostic digits of no number do not make up
zero. -/
def Proper : Decimal → Prop
  | d@(finite ..) => d.inRange
  | infinite _ => True
  | nan _ _ diagnostic => diagnostic ≠ some 0

instance (d : Decimal) : Decidable d.Proper := by
  cases d <;> unfold Proper <;> infer_instance

/-! ## The characters of a decimal -/

def textChars : List Char := "0123456789+-.EInfinityNaNs".toList

theorem not_isBlank_of_mem_textChars {c : Char} (h : c ∈ textChars) :
    Text.isBlank c = false ∧ c ≠ '_' := by
  have key : textChars.all (fun c => Text.isBlank c = false ∧ c ≠ '_') = true := by decide
  exact of_decide_eq_true (List.all_eq_true.mp key c h)

theorem natChars_subset (n : Nat) : natChars n ⊆ textChars := by
  intro c hc
  obtain ⟨d, hd, rfl⟩ := mem_natChars hc
  have key : ∀ d < 10, digitChar d ∈ textChars := by decide
  exact key d hd

theorem pointed_subset {place : Nat} {ds : List Char} (h : ds ⊆ textChars) :
    pointed place ds ⊆ textChars := by
  unfold pointed
  split
  · refine List.append_subset.mpr ⟨fun c hc => h (List.take_subset place ds hc), ?_⟩
    exact List.cons_subset.mpr ⟨by decide, fun c hc => h (List.drop_subset place ds hc)⟩
  · exact h

theorem exponentChars_subset (e : Int) : exponentChars e ⊆ textChars := by
  unfold exponentChars intChars
  split
  · exact List.cons_subset.mpr ⟨by decide, natChars_subset _⟩
  · split
    · exact natChars_subset _
    · exact List.cons_subset.mpr ⟨by decide, natChars_subset _⟩

theorem finiteChars_subset (coefficient : Nat) (exponent : Int) :
    finiteChars coefficient exponent ⊆ textChars := by
  have hdigits := natChars_subset coefficient
  simp only [finiteChars]
  split
  · split
    · exact pointed_subset hdigits
    · refine List.cons_subset.mpr ⟨by decide, List.cons_subset.mpr ⟨by decide, ?_⟩⟩
      refine List.append_subset.mpr ⟨?_, hdigits⟩
      intro c hc
      rw [(List.mem_replicate.mp hc).2]
      decide
  · refine List.append_subset.mpr ⟨pointed_subset hdigits, ?_⟩
    exact List.cons_subset.mpr ⟨by decide, exponentChars_subset _⟩

theorem signChars_subset (negative : Bool) : signChars negative ⊆ textChars := by
  cases negative <;> decide

theorem chars_subset (d : Decimal) : d.chars ⊆ textChars := by
  cases d with
  | finite negative coefficient exponent =>
      exact List.append_subset.mpr ⟨signChars_subset negative, finiteChars_subset _ _⟩
  | infinite negative =>
      exact List.append_subset.mpr ⟨signChars_subset negative, by decide⟩
  | nan negative signalling diagnostic =>
      refine List.append_subset.mpr ⟨?_, ?_⟩
      · refine List.append_subset.mpr ⟨?_, by decide⟩
        refine List.append_subset.mpr ⟨signChars_subset negative, ?_⟩
        cases signalling <;> decide
      · cases diagnostic with
        | none => exact List.nil_subset _
        | some n => exact natChars_subset n

/-! ## Reading a number -/

theorem natChars_ne_nil (n : Nat) : natChars n ≠ [] :=
  mt List.map_eq_nil_iff.mp (digits_ne_nil 10 n)

theorem readExponent?_natChars (n : Nat) :
    readExponent? ('E' :: '+' :: natChars n) = some (n : Int) ∧
      readExponent? ('E' :: '-' :: natChars n) = some (-(n : Int)) := by
  obtain ⟨d, ds, hds⟩ := List.exists_cons_of_ne_nil (digits_ne_nil 10 n)
  have hvalue : ofDigits 10 (d :: ds) = n := by rw [← hds, ofDigits_digits]
  constructor <;> simp [readExponent?, readSign, readDigits_natChars, hds, hvalue]

theorem readExponent?_exponentChars (e : Int) :
    readExponent? ('E' :: exponentChars e) = some e := by
  unfold exponentChars
  split
  · rename_i he
    rw [(readExponent?_natChars e.toNat).1, Int.toNat_of_nonneg he]
  · obtain ⟨n, rfl⟩ := Int.eq_negSucc_of_lt_zero (Int.lt_of_not_ge ‹_›)
    exact (readExponent?_natChars (n + 1)).2

/-- What may follow a run of digits for it to end there. -/
def EndsDigits (rest : List Char) : Prop := ∀ c ∈ rest.head?, Text.digitValue? c = none

theorem readUnbounded?_whole {negative : Bool} {whole : List Nat} {rest : List Char}
    (hdigits : ∀ d ∈ whole, d < 10) (hne : whole ≠ []) (hrest : EndsDigits rest)
    (hpoint : rest.head? ≠ some '.') :
    readUnbounded? negative (whole.map digitChar ++ rest) =
      (readExponent? rest).map (finite negative (ofDigits 10 whole)) := by
  simp only [readUnbounded?, readDigits_append hdigits hrest]
  cases rest with
  | nil => simp [hne]
  | cons c tail =>
      have hc : c ≠ '.' := by simpa using hpoint
      simp [hne, hc]

theorem readUnbounded?_fraction (negative : Bool) {whole fraction : List Nat} {rest : List Char}
    (hwhole : ∀ d ∈ whole, d < 10) (hfraction : ∀ d ∈ fraction, d < 10) (hne : whole ≠ [])
    (hrest : EndsDigits rest) :
    readUnbounded? negative (whole.map digitChar ++ '.' :: (fraction.map digitChar ++ rest)) =
      (readExponent? rest).map fun e =>
        finite negative (ofDigits 10 (whole ++ fraction)) (e - fraction.length) := by
  have hpoint : ∀ c ∈ ('.' :: (fraction.map digitChar ++ rest)).head?,
      Text.digitValue? c = none := by
    intro c hc
    obtain rfl : '.' = c := by simpa using hc
    decide
  simp only [readUnbounded?, readDigits_append hwhole hpoint, readDigits_append hfraction hrest]
  simp [hne]

/-- A point moves the exponent by the digits behind it. -/
theorem readUnbounded?_pointed (negative : Bool) (coefficient : Nat) {place : Nat}
    (hplace : 0 < place) {rest : List Char} (hrest : EndsDigits rest)
    (hpoint : rest.head? ≠ some '.') :
    readUnbounded? negative (pointed place (natChars coefficient) ++ rest) =
      (readExponent? rest).map fun e =>
        finite negative coefficient (e - ((natChars coefficient).length - place : Nat)) := by
  have hdigits := digits_lt (by decide : 2 ≤ 10) coefficient
  unfold pointed
  split
  · rename_i hlt
    have htake : (natChars coefficient).take place =
        ((digits 10 coefficient).take place).map digitChar := List.map_take.symm
    have hdrop : (natChars coefficient).drop place =
        ((digits 10 coefficient).drop place).map digitChar := List.map_drop.symm
    have hne : (digits 10 coefficient).take place ≠ [] := by
      rw [Ne, List.take_eq_nil_iff]
      exact fun h => h.elim (by omega) (digits_ne_nil 10 coefficient)
    rw [htake, hdrop, List.append_assoc, List.cons_append,
      readUnbounded?_fraction negative (fun d hd => hdigits d (List.mem_of_mem_take hd))
        (fun d hd => hdigits d (List.mem_of_mem_drop hd)) hne hrest,
      List.take_append_drop, ofDigits_digits, List.length_drop, length_natChars]
  · rename_i hle
    rw [natChars, readUnbounded?_whole hdigits (digits_ne_nil 10 coefficient) hrest hpoint,
      ofDigits_digits]
    congr 1
    funext e
    congr 1
    rw [natChars] at hle
    omega

theorem endsDigits_nil : EndsDigits [] := by simp [EndsDigits]

/-- Zeros between the point and the coefficient move the exponent with it. -/
theorem readUnbounded?_leadingZeros (negative : Bool) (zeros coefficient : Nat) :
    readUnbounded? negative ('0' :: '.' :: (List.replicate zeros '0' ++ natChars coefficient)) =
      some (finite negative coefficient (-(zeros + (natChars coefficient).length : Nat))) := by
  have hzeros : List.replicate zeros '0' ++ natChars coefficient =
      (List.replicate zeros 0 ++ digits 10 coefficient).map digitChar := by
    rw [List.map_append, List.map_replicate]
    rfl
  have hfraction : ∀ d ∈ List.replicate zeros 0 ++ digits 10 coefficient, d < 10 := by
    intro d hd
    rcases List.mem_append.mp hd with hd | hd
    · rw [(List.mem_replicate.mp hd).2]
      decide
    · exact digits_lt (by decide) coefficient d hd
  have hwhole : ∀ d ∈ [0], d < 10 := by decide
  have hread := readUnbounded?_fraction negative hwhole hfraction (by simp) endsDigits_nil
  rw [List.append_nil] at hread
  rw [hzeros]
  refine hread.trans ?_
  rw [List.singleton_append, ofDigits_cons, Nat.zero_mul, Nat.zero_add, ofDigits_zeros_append,
    ofDigits_digits, List.length_append, List.length_replicate, ← length_natChars]
  simp [readExponent?]

theorem readUnbounded?_finiteChars (negative : Bool) (coefficient : Nat) (exponent : Int) :
    readUnbounded? negative (finiteChars coefficient exponent) =
      some (finite negative coefficient exponent) := by
  have hlength : 0 < (natChars coefficient).length :=
    List.length_pos_iff.mpr (natChars_ne_nil coefficient)
  simp only [finiteChars]
  split
  · rename_i hpositional
    split
    · rename_i hleading
      rw [← List.append_nil (pointed _ _), readUnbounded?_pointed negative coefficient
        (by omega) endsDigits_nil (by simp)]
      simp only [readExponent?, Option.map_some, Option.some.injEq, finite.injEq, true_and]
      omega
    · rename_i hleading
      rw [readUnbounded?_leadingZeros]
      simp only [Option.some.injEq, finite.injEq, true_and]
      omega
  · have hmark : EndsDigits ('E' :: exponentChars
        (exponent + (natChars coefficient).length - 1)) := by
      intro c hc
      obtain rfl : 'E' = c := by simpa using hc
      decide
    rw [readUnbounded?_pointed negative coefficient Nat.one_pos hmark (by simp),
      readExponent?_exponentChars]
    simp only [Option.map_some, Option.some.injEq, finite.injEq, true_and]
    omega

/-! ## Reading a decimal -/

/-- A number begins with a digit. -/
theorem finiteChars_eq_cons (coefficient : Nat) (exponent : Int) :
    ∃ d rest, d < 10 ∧ finiteChars coefficient exponent = digitChar d :: rest := by
  obtain ⟨d, ds, hds⟩ := List.exists_cons_of_ne_nil (digits_ne_nil 10 coefficient)
  have hd : d < 10 := digits_lt (by decide) coefficient d (by simp [hds])
  have hpointed : ∀ n : Nat, 0 < n →
      ∃ rest, pointed n (natChars coefficient) = digitChar d :: rest := by
    intro n hn
    obtain ⟨k, rfl⟩ := Nat.exists_eq_succ_of_ne_zero (Nat.ne_of_gt hn)
    unfold pointed natChars
    split <;> simp [hds]
  simp only [finiteChars]
  split
  · split
    · obtain ⟨rest, hrest⟩ := hpointed
        (exponent + ((natChars coefficient).length : Int)).toNat (by omega)
      exact ⟨d, rest, hd, hrest⟩
    · exact ⟨0, _, by decide, rfl⟩
  · obtain ⟨rest, hrest⟩ := hpointed 1 Nat.one_pos
    exact ⟨d, _, hd, by rw [hrest, List.cons_append]⟩

theorem readSign_signChars (negative : Bool) {rest : List Char}
    (h : ∀ c ∈ rest.head?, c ≠ '-' ∧ c ≠ '+') :
    readSign (signChars negative ++ rest) = (negative, rest) := by
  cases negative with
  | true => rfl
  | false =>
      simp only [signChars, Bool.false_eq_true, if_false, List.nil_append]
      unfold readSign
      split
      · exact absurd rfl (h '-' rfl).1
      · exact absurd rfl (h '+' rfl).2
      · rfl

theorem readUnsigned?_finiteChars (negative : Bool) (coefficient : Nat) (exponent : Int) :
    readUnsigned? negative (finiteChars coefficient exponent) =
      readNumber? negative (finiteChars coefficient exponent) := by
  obtain ⟨d, rest, hd, hcons⟩ := finiteChars_eq_cons coefficient exponent
  have hlower : (digitChar d).toLower ≠ 'i' ∧ (digitChar d).toLower ≠ 'n' ∧
      (digitChar d).toLower ≠ 's' := by
    have key : ∀ d < 10, (digitChar d).toLower ≠ 'i' ∧ (digitChar d).toLower ≠ 'n' ∧
        (digitChar d).toLower ≠ 's' := by decide
    exact key d hd
  rw [hcons]
  simp [readUnsigned?, hlower.1, hlower.2.1.symm, hlower.2.2.symm]

theorem readUnsigned?_nan (negative signalling : Bool) {diagnostic : Option Nat}
    (h : diagnostic ≠ some 0) :
    readUnsigned? negative ((if signalling then ['s'] else []) ++ "NaN".toList ++
      diagnostic.elim [] natChars) = some (nan negative signalling diagnostic) := by
  have hread : readDiagnostic? (diagnostic.elim [] natChars) = some diagnostic := by
    cases diagnostic with
    | none => rfl
    | some n =>
        obtain ⟨d, ds, hds⟩ := List.exists_cons_of_ne_nil (digits_ne_nil 10 n)
        have hvalue : ofDigits 10 (d :: ds) = n := by rw [← hds, ofDigits_digits]
        have hn : n ≠ 0 := fun hn => h (congrArg some hn)
        simp [readDiagnostic?, readDigits_natChars, hds, hvalue, hn]
  cases signalling <;> simp [readUnsigned?, hread]

theorem ofChars?_of_readUnsigned? {d : Decimal} {negative : Bool} {rest : List Char}
    (hchars : d.chars = signChars negative ++ rest)
    (hhead : ∀ c ∈ rest.head?, c ≠ '-' ∧ c ≠ '+') (h : readUnsigned? negative rest = some d) :
    ofChars? d.chars = some d := by
  have hplain : ∀ c ∈ d.chars, Text.isBlank c = false ∧ c ≠ '_' := fun _ hc =>
    not_isBlank_of_mem_textChars (chars_subset d hc)
  have htrim : Text.trimChars d.chars = d.chars := Text.trimBy_eq_self fun c hc => (hplain c hc).1
  have hfilter : d.chars.filter (· ≠ '_') = d.chars :=
    List.filter_eq_self.mpr fun c hc => by simp [(hplain c hc).2]
  simp only [ofChars?, htrim, hfilter]
  rw [hchars, readSign_signChars negative hhead]
  exact h

/-- The text of a decimal denotes this decimal. -/
theorem ofText?_text {d : Decimal} (h : d.Proper) : ofText? d.text = some d := by
  rw [ofText?, text, String.toList_ofList]
  cases d with
  | finite negative coefficient exponent =>
      have hrange : inRange (finite negative coefficient exponent) = true := h
      refine ofChars?_of_readUnsigned? rfl ?_ ?_
      · obtain ⟨d, rest, hd, hcons⟩ := finiteChars_eq_cons coefficient exponent
        intro c hc
        obtain rfl : digitChar d = c := by simpa [hcons] using hc
        have key : ∀ d < 10, digitChar d ≠ '-' ∧ digitChar d ≠ '+' := by decide
        exact key d hd
      · rw [readUnsigned?_finiteChars, readNumber?, readUnbounded?_finiteChars, Option.filter_some,
          if_pos hrange]
  | infinite negative =>
      have hchars : (infinite negative).chars = signChars negative ++ "Infinity".toList := rfl
      refine ofChars?_of_readUnsigned? hchars ?_ ?_
      · intro c hc
        obtain rfl : 'I' = c := by simpa using hc
        decide
      · rfl
  | nan negative signalling diagnostic =>
      have hhead : ∀ c ∈ ((if signalling then ['s'] else []) ++ "NaN".toList ++
          diagnostic.elim [] natChars).head?, c ≠ '-' ∧ c ≠ '+' := by
        intro c hc
        cases signalling with
        | false =>
            obtain rfl : 'N' = c := by simpa using hc
            decide
        | true =>
            obtain rfl : 's' = c := by simpa using hc
            decide
      refine ofChars?_of_readUnsigned? ?_ hhead (readUnsigned?_nan negative signalling h)
      simp only [chars, List.append_assoc]

theorem proper_of_readUnsigned? {negative : Bool} {input : List Char} {d : Decimal}
    (h : readUnsigned? negative input = some d) : d.Proper := by
  have hdiagnostic : ∀ {rest : List Char} {n : Option Nat}, readDiagnostic? rest = some n →
      n ≠ some 0 := by
    rintro rest n hread rfl
    unfold readDiagnostic? at hread
    split at hread
    · simp at hread
    · simp only [Option.some.injEq] at hread
      split at hread
      · contradiction
      · rename_i hn
        exact hn (Option.some.inj hread)
    · contradiction
  simp only [readUnsigned?] at h
  split at h
  · obtain rfl := Option.some.inj h
    trivial
  · split at h
    · obtain ⟨n, hread, rfl⟩ := Option.map_eq_some_iff.mp h
      exact hdiagnostic hread
    · split at h
      · obtain ⟨n, hread, rfl⟩ := Option.map_eq_some_iff.mp h
        exact hdiagnostic hread
      · obtain ⟨hread, hrange⟩ := Option.filter_eq_some_iff.mp h
        cases d with
        | finite => exact hrange
        | infinite => trivial
        | nan =>
            unfold readUnbounded? at hread
            simp only at hread
            split at hread <;> simp at hread

/-- The decimals that exist are those that some text denotes. -/
theorem proper_iff (d : Decimal) : d.Proper ↔ ∃ t, ofText? t = some d := by
  constructor
  · intro h
    exact ⟨d.text, ofText?_text h⟩
  · rintro ⟨t, h⟩
    exact proper_of_readUnsigned? h

end RelationalMapper.Number.Decimal
