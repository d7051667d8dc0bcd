/-!
Numerals: the digits of a natural number in a base, and their value. Main statement: reading the
digits that were written gives the number back.
-/

namespace RelationalMapper.Number

/-- The digits of `n` in front of those that are known already. -/
def digitsBefore (base : Nat) (n : Nat) (known : List Nat) : List Nat :=
  if _h : 2 ≤ base ∧ base ≤ n then digitsBefore base (n / base) (n % base :: known) else n :: known
  termination_by n
  decreasing_by exact Nat.div_lt_self (by omega) (by omega)

/-- The digits of `n`, most significant first; zero has one digit. -/
def digits (base : Nat) (n : Nat) : List Nat := digitsBefore base n []

/-- The number that digits denote, read from the left. -/
def ofDigits (base : Nat) (ds : List Nat) : Nat := ds.foldl (fun n d => n * base + d) 0

theorem ofDigits_append (base : Nat) (ds : List Nat) (d : Nat) :
    ofDigits base (ds ++ [d]) = ofDigits base ds * base + d := by
  simp [ofDigits]

/-- Known digits only stand behind the others. -/
theorem digitsBefore_eq_append (base n : Nat) (known : List Nat) :
    digitsBefore base n known = digits base n ++ known := by
  have key : ∀ n known more,
      digitsBefore base n (known ++ more) = digitsBefore base n known ++ more := by
    intro n known more
    fun_induction digitsBefore base n known with
    | case1 n known h ih => rw [digitsBefore, dif_pos h, ← ih]; rfl
    | case2 n known h => rw [digitsBefore, dif_neg h]; rfl
  simpa [digits] using key n [] known

/-- The last digit is the remainder, and the others are those of the quotient. -/
theorem digits_of_le {base n : Nat} (hb : 2 ≤ base) (hn : base ≤ n) :
    digits base n = digits base (n / base) ++ [n % base] := by
  rw [digits, digitsBefore, dif_pos ⟨hb, hn⟩, digitsBefore_eq_append]

theorem digits_of_not_le {base n : Nat} (h : ¬(2 ≤ base ∧ base ≤ n)) : digits base n = [n] := by
  rw [digits, digitsBefore, dif_neg h]

theorem ofDigits_digits (base n : Nat) : ofDigits base (digits base n) = n := by
  induction n using Nat.strongRecOn with
  | ind n ih =>
    by_cases h : 2 ≤ base ∧ base ≤ n
    · rw [digits_of_le h.1 h.2, ofDigits_append,
        ih _ (Nat.div_lt_self (by omega) (by omega)), Nat.mul_comm, Nat.div_add_mod]
    · simp [digits_of_not_le h, ofDigits]

theorem digits_lt {base : Nat} (hb : 2 ≤ base) (n : Nat) : ∀ d ∈ digits base n, d < base := by
  induction n using Nat.strongRecOn with
  | ind n ih =>
    by_cases h : 2 ≤ base ∧ base ≤ n
    · intro d hd
      rw [digits_of_le h.1 h.2] at hd
      rcases List.mem_append.1 hd with hd | hd
      · exact ih _ (Nat.div_lt_self (by omega) (by omega)) d hd
      · simp at hd; subst hd; exact Nat.mod_lt _ (by omega)
    · intro d hd; simp [digits_of_not_le h] at hd; omega

/-- The character of a digit below sixteen. -/
def digitChar (d : Nat) : Char :=
  if d < 10 then Char.ofNat ('0'.toNat + d) else Char.ofNat ('a'.toNat + (d - 10))

/-- The decimal numeral of a natural number. -/
def natChars (n : Nat) : List Char := (digits 10 n).map digitChar

def natText (n : Nat) : String := String.ofList (natChars n)

/-- The decimal numeral of an integer, with a sign if it is negative. -/
def intChars : Int → List Char
  | .ofNat n => natChars n
  | .negSucc n => '-' :: natChars (n + 1)

def intText (i : Int) : String := String.ofList (intChars i)

/-- The longest run of digits at the front, with what follows it. Single underscores may stand
between two digits; where one stands elsewhere in the run there is no numeral. -/
def digitRun? (digit? : Char → Option Nat) : List Char → Option (List Nat × List Char)
  | [] => none
  | c :: rest => do
    let d ← digit? c
    match rest with
    | [] => some ([d], [])
    | '_' :: more => (digitRun? digit? more).map fun (ds, tail) => (d :: ds, tail)
    | next :: more =>
      if (digit? next).isSome then
        (digitRun? digit? (next :: more)).map fun (ds, tail) => (d :: ds, tail)
      else some ([d], next :: more)

/-- The digits of a numeral that is nothing but a run. -/
def separatedDigits? (digit? : Char → Option Nat) (input : List Char) : Option (List Nat) :=
  match digitRun? digit? input with
  | some (ds, []) => some ds
  | _ => none

/-- The numeral of an integer has at most this many digits where it is written or read as text. -/
def mostDigitsAsText : Nat := 4300

/-- Fills up with zeros on the left. -/
def padLeft (width : Nat) (numeral : List Char) : List Char :=
  List.replicate (width - numeral.length) '0' ++ numeral

/-- The hexadecimal numeral of `n` with at least `width` digits. -/
def hexChars (width n : Nat) : List Char := padLeft width ((digits 16 n).map digitChar)

/-- The value of a hexadecimal digit. -/
def hexDigit? (c : Char) : Option Nat :=
  if c.isDigit then some (c.toNat - '0'.toNat)
  else if 'a' ≤ c && c ≤ 'f' then some (c.toNat - 'a'.toNat + 10)
  else if 'A' ≤ c && c ≤ 'F' then some (c.toNat - 'A'.toNat + 10)
  else none

end RelationalMapper.Number
