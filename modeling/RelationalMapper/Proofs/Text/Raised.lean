import RelationalMapper.Proofs.Text.Lowered

/-! # Signs in capitals

Only letters change when a text is raised, and they change to letters: the signs and digits of a text
are those of its capitals. -/

namespace RelationalMapper.Text

open LetterCase

/-- An ASCII character that is no letter; the character zero stands for code points without one. -/
def isSign (c : Char) : Bool := c.toNat < 0x80 && !c.isAlpha && c ≠ Char.ofNat 0

theorem isAsciiClass_isSign : IsAsciiClass isSign where
  ascii h := by simp [isSign, Nat.not_lt.mpr h]
  zero := by decide

/-! ## Above ASCII -/

/-- Where the runs begin and where they lead to: two letters above ASCII lead to ASCII ones. -/
theorem upperRuns_targets : ∀ run ∈ upperRuns, 0x80 ≤ (run.first : Int) + run.shift ∨
    run.first = run.last ∧ isSign (Char.ofNat ((run.first : Int) + run.shift).toNat) = false := by
  decide +kernel

theorem upperExpansions_letters :
    ∀ entry ∈ upperExpansions, entry.2.toList.all (!isSign ·) = true := by decide +kernel

theorem not_isSign_upperChar {c : Char} (h : 0x80 ≤ c.toNat) :
    ∀ x ∈ upperChar c, isSign x = false := by
  intro x hx
  rw [upperChar, if_neg (by omega)] at hx
  split at hx
  · rename_i letters hlookup
    obtain ⟨front, rest, hentries, -⟩ := List.lookup_eq_some_iff.mp hlookup
    have hletters := upperExpansions_letters (c.toNat, letters) (hentries ▸ by simp)
    simpa using List.all_eq_true.mp hletters x hx
  · rw [List.mem_singleton.mp hx]
    exact isAsciiClass_isSign.not_moveBy upperRuns_targets h

/-! ## All characters -/

theorem toUpper_ascii : ∀ code < 0x80,
    (isSign (Char.ofNat code) = true ∧ (Char.ofNat code).toUpper = Char.ofNat code) ∨
    (isSign (Char.ofNat code) = false ∧ isSign (Char.ofNat code).toUpper = false) := by
  decide +kernel

/-- A sign stays what it is, and nothing else becomes a sign. -/
theorem upperChar_cases (c : Char) :
    (isSign c = true ∧ upperChar c = [c]) ∨
      (isSign c = false ∧ ∀ x ∈ upperChar c, isSign x = false) := by
  by_cases hascii : c.toNat < 0x80
  · have hchar := toUpper_ascii c.toNat hascii
    rw [Char.ofNat_toNat] at hchar
    simpa [upperChar, hascii] using hchar
  · have habove : 0x80 ≤ c.toNat := Nat.not_lt.mp hascii
    exact .inr ⟨isAsciiClass_isSign.ascii habove, not_isSign_upperChar habove⟩

theorem upperChar_of_isSign {c : Char} (h : isSign c = true) : upperChar c = [c] := by
  rcases upperChar_cases c with ⟨-, hsame⟩ | ⟨hletter, -⟩
  · exact hsame
  · rw [h] at hletter
    cases hletter

theorem flatMap_upperChar_of_isSign {text : List Char} (h : ∀ c ∈ text, isSign c = true) :
    text.flatMap upperChar = text := by
  induction text with
  | nil => rfl
  | cons c text ih =>
      rw [List.flatMap_cons, upperChar_of_isSign (h c List.mem_cons_self),
        ih fun x hx => h x (List.mem_cons_of_mem c hx), List.singleton_append]

end RelationalMapper.Text
