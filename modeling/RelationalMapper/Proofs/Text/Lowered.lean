import Mathlib.Data.List.Infix
import RelationalMapper.Text.LetterCase
import RelationalMapper.Text.Scan

/-! # Words in lower case

Whether a word occurs in a text whatever the case of its letters is seen by lowering them one by one,
as long as no letter of the word is the lower case of a letter above ASCII. -/

namespace RelationalMapper.Text

open LetterCase

theorem occursIn_iff {pattern text : List Char} :
    occursIn pattern text = true ↔ pattern <:+: text := by
  induction text with
  | nil => simp [occursIn]
  | cons c text ih => simp [occursIn, List.infix_cons_iff, ih]

/-! ## Other spellings -/

/-- The letters stand in the second text as they do in the first; all other characters may be spelled
in another way, and at more length. -/
inductive Respells (letters : List Char) : List Char → List Char → Prop
  | nil : Respells letters [] []
  | same {s t : List Char} (c : Char) (h : Respells letters s t) :
      Respells letters (c :: s) (c :: t)
  | other {c : Char} {spelled s t : List Char} (hc : c ∉ letters) (hne : spelled ≠ [])
      (hspelled : ∀ x ∈ spelled, x ∉ letters) (h : Respells letters s t) :
      Respells letters (c :: s) (spelled ++ t)

namespace Respells

variable {letters pattern s t : List Char}

theorem prefix_iff (h : Respells letters s t) (hp : pattern ⊆ letters) :
    pattern <+: s ↔ pattern <+: t := by
  induction h generalizing pattern with
  | nil => rfl
  | same c h ih =>
      cases pattern with
      | nil => simp
      | cons d pattern =>
          rw [List.cons_prefix_cons, List.cons_prefix_cons, ih (List.cons_subset.mp hp).2]
  | @other c spelled s t hc hne hspelled h ih =>
      cases pattern with
      | nil => simp
      | cons d pattern =>
          obtain ⟨x, spelled, rfl⟩ := List.exists_cons_of_ne_nil hne
          have hd : d ∈ letters := hp List.mem_cons_self
          have hdc : d ≠ c := fun he => hc (he ▸ hd)
          have hdx : d ≠ x := fun he => hspelled x List.mem_cons_self (he ▸ hd)
          simp [hdc, hdx]

/-- A word does not begin inside characters that it does not have. -/
theorem infix_append_iff {spelled : List Char} (hne : pattern ≠ [])
    (h : ∀ x ∈ spelled, x ∉ pattern) (t : List Char) :
    pattern <:+: spelled ++ t ↔ pattern <:+: t := by
  induction spelled with
  | nil => rfl
  | cons x spelled ih =>
      have hbegin : ¬pattern <+: x :: (spelled ++ t) := by
        obtain ⟨d, pattern, rfl⟩ := List.exists_cons_of_ne_nil hne
        rw [List.cons_prefix_cons]
        rintro ⟨rfl, -⟩
        exact h d List.mem_cons_self List.mem_cons_self
      have htail := ih fun y hy => h y (List.mem_cons_of_mem x hy)
      rw [List.cons_append, List.infix_cons_iff, htail]
      exact or_iff_right hbegin

/-- A word of the letters occurs in both texts or in none. -/
theorem infix_iff (h : Respells letters s t) (hp : pattern ⊆ letters) (hne : pattern ≠ []) :
    pattern <:+: s ↔ pattern <:+: t := by
  induction h with
  | nil => rfl
  | same c h ih =>
      rw [List.infix_cons_iff, List.infix_cons_iff, ih, (h.same c).prefix_iff hp]
  | @other c spelled s t hc _ hspelled h ih =>
      have hone : ∀ x ∈ [c], x ∉ pattern := fun x hx hmem => by
        obtain rfl := List.mem_singleton.mp hx
        exact hc (hp hmem)
      rw [← List.singleton_append, infix_append_iff hne hone, ih,
        infix_append_iff hne fun x hx hmem => hspelled x hx (hp hmem)]

end Respells

/-- Doubling a mark changes nothing else, whatever becomes of single characters afterwards. -/
theorem respells_doubled {letters : List Char} {mark : Char} {f : Char → Char}
    (h : f mark ∉ letters) (text : List Char) :
    Respells letters (text.map f) ((doubled mark text).map f) := by
  induction text with
  | nil => exact .nil
  | cons c text ih =>
      by_cases hc : c = mark
      · subst hc
        have hmarks : ∀ x ∈ [f c, f c], x ∉ letters := by simpa using h
        rw [doubled, if_pos rfl]
        exact .other h (List.cons_ne_nil _ _) hmarks ih
      · rw [doubled, if_neg hc]
        exact .same (f c) ih

/-! ## Characters that letters do not become -/

theorem LetterCase.Run.of_move? {run : Run} {code moved : Nat} (h : run.move? code = some moved) :
    run.first ≤ code ∧ code ≤ run.last ∧ ((code : Int) + run.shift).toNat = moved := by
  unfold Run.move? at h
  split at h
  · rename_i hin
    simp only [Bool.and_eq_true, decide_eq_true_eq] at hin
    exact ⟨hin.1.1, hin.1.2, Option.some.inj h⟩
  · contradiction

/-- The class has only ASCII characters. The character zero is not one of them: it stands for all code
points that no character has. -/
structure IsAsciiClass (member : Char → Bool) : Prop where
  ascii : ∀ {c : Char}, 0x80 ≤ c.toNat → member c = false
  zero : member (Char.ofNat 0) = false

namespace IsAsciiClass

variable {member : Char → Bool} (hclass : IsAsciiClass member)
include hclass

theorem not_ofNat {code : Nat} (h : 0x80 ≤ code) : member (Char.ofNat code) = false := by
  by_cases hvalid : code.isValidChar
  · have hcode : (Char.ofNat code).toNat = code := by
      rw [Char.ofNat, dif_pos hvalid]
      rfl
    exact hclass.ascii (hcode.symm ▸ h)
  · have hzero : Char.ofNat code = Char.ofNat 0 := by
      rw [Char.ofNat, dif_neg hvalid]
      rfl
    exact hzero ▸ hclass.zero

/-- Runs that lead above ASCII, or lead one letter to a character outside of the class, lead nothing
above ASCII into it. -/
theorem not_moveBy {runs : List Run}
    (hruns : ∀ run ∈ runs, 0x80 ≤ (run.first : Int) + run.shift ∨
      run.first = run.last ∧ member (Char.ofNat ((run.first : Int) + run.shift).toNat) = false)
    {c : Char} (h : 0x80 ≤ c.toNat) : member (moveBy runs c) = false := by
  unfold moveBy
  cases hmove : runs.findSome? fun run => run.move? c.toNat with
  | none => exact hclass.ascii h
  | some moved =>
      obtain ⟨run, hrun, hmoved⟩ := List.exists_of_findSome?_eq_some hmove
      obtain ⟨hfirst, hlast, hcode⟩ := Run.of_move? hmoved
      rcases hruns run hrun with htarget | ⟨heq, htarget⟩
      · exact hclass.not_ofNat (by omega)
      · have hone : c.toNat = run.first := by omega
        rw [← hcode, hone]
        exact htarget

end IsAsciiClass

/-! ## Lower case, letter by letter -/

/-- A character that only ASCII letters have as their lower case; `i` and `k` are also what is left of
letters above ASCII. -/
def isSteady (c : Char) : Bool := c.toNat < 0x80 && c ∉ ['i', 'k', Char.ofNat 0]

theorem isAsciiClass_isSteady : IsAsciiClass isSteady where
  ascii h := by simp [isSteady, Nat.not_lt.mpr h]
  zero := by decide

theorem toLower_of_not_ascii {c : Char} (h : 0x80 ≤ c.toNat) : c.toLower = c := by
  have hz : ¬(c.val ≥ 'A'.val ∧ c.val ≤ 'Z'.val) := by
    rintro ⟨-, hle⟩
    have hval : c.toNat ≤ 'Z'.toNat := hle
    have hend : 'Z'.toNat < 0x80 := by decide
    omega
  exact dif_neg hz

/-- Where the runs begin and where they lead to: the Kelvin sign alone leads to ASCII. -/
theorem lowerRuns_targets : ∀ run ∈ lowerRuns, 0x80 ≤ (run.first : Int) + run.shift ∨
    run.first = run.last ∧ isSteady (Char.ofNat ((run.first : Int) + run.shift).toNat) = false := by
  decide +kernel

/-- Above ASCII, the lower case of a letter has no steady one in it. -/
theorem not_isSteady_lowerChar {c : Char} (h : 0x80 ≤ c.toNat) (earlier later : List Char) :
    lowerChar earlier c later ≠ [] ∧ ∀ x ∈ lowerChar earlier c later, isSteady x = false := by
  rw [lowerChar, if_neg (by omega)]
  split
  · split <;> exact ⟨by simp, by simp; decide⟩
  · split
    · exact ⟨by simp, by simp; decide⟩
    · simpa using isAsciiClass_isSteady.not_moveBy lowerRuns_targets h

theorem respells_lowerFrom {letters : List Char} (hl : ∀ c ∈ letters, isSteady c = true)
    (earlier text : List Char) :
    Respells letters (text.map Char.toLower) (lowerFrom earlier text) := by
  have hother {c : Char} (h : isSteady c = false) : c ∉ letters := fun hc => by
    simp [hl c hc] at h
  induction text generalizing earlier with
  | nil => exact .nil
  | cons c text ih =>
      rw [List.map_cons, lowerFrom]
      by_cases hc : c.toNat < 0x80
      · rw [lowerChar, if_pos hc]
        exact .same c.toLower (ih _)
      · have habove : 0x80 ≤ c.toNat := Nat.not_lt.mp hc
        have hc' : c ∉ letters := hother (isAsciiClass_isSteady.ascii habove)
        obtain ⟨hne, hlower⟩ := not_isSteady_lowerChar habove earlier text
        rw [toLower_of_not_ascii habove]
        exact .other hc' hne (fun x hx => hother (hlower x hx)) (ih _)

/-- A word of steady letters is found in the lower case of a text where the letters one by one make
it up. -/
theorem contains_lower {pattern : String} (hne : pattern ≠ "")
    (h : ∀ c ∈ pattern.toList, isSteady c = true) (text : String) :
    contains pattern (lower text) = true ↔ pattern.toList <:+: text.toList.map Char.toLower := by
  have hlist : pattern.toList ≠ [] := by simpa using hne
  rw [contains, occursIn_iff, lower, String.toList_ofList]
  exact ((respells_lowerFrom h [] text.toList).infix_iff (List.Subset.refl _) hlist).symm

end RelationalMapper.Text
