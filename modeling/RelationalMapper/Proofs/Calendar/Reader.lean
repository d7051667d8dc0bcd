import RelationalMapper.Calendar.Reader
import RelationalMapper.Proofs.Number.Numeral

/-! # Points in time read back

Each reader finds at the front of a text what was written there and hands back the rest: numbers of
fixed width, the date, the time of day with its microseconds and the offset. -/

namespace RelationalMapper.Calendar

open Number

/-! ## Numbers of fixed width -/

theorem readFixed?_map {ds : List Nat} (hds : ∀ d ∈ ds, d < 10) (rest : List Char) :
    readFixed? ds.length (ds.map digitChar ++ rest) = some (ofDigits 10 ds, rest) := by
  induction ds with
  | nil => rfl
  | cons d ds ih =>
      have htail := ih fun d hd => hds d (List.mem_cons_of_mem _ hd)
      rw [List.length_cons, List.map_cons, List.cons_append, readFixed?,
        asciiDigit?_digitChar (hds d List.mem_cons_self), Option.bind_eq_bind, Option.bind_some,
        htail, ofDigits_cons]
      rfl

theorem readFixed?_padLeft (width : Nat) {n : Nat} (h : n < 10 ^ (width + 1)) (rest : List Char) :
    readFixed? (width + 1) (padLeft (width + 1) (natChars n) ++ rest) = some (n, rest) := by
  have hread := readFixed?_map (paddedDigits_lt (by decide) (width + 1) n) rest
  rw [length_paddedDigits (by decide) h, ofDigits_paddedDigits] at hread
  rw [natChars, padLeft_eq_map]
  exact hread

theorem readFixed?_two {n : Nat} (h : n < 100) (rest : List Char) :
    readFixed? 2 (Clock.two n ++ rest) = some (n, rest) :=
  readFixed?_padLeft 1 h rest

@[simp] theorem readMark?_cons (mark : Char) (rest : List Char) :
    readMark? mark (mark :: rest) = some ((), rest) := if_pos rfl

theorem readMark?_eq_none {mark : Char} {rest : List Char} (h : ∀ c ∈ rest.head?, c ≠ mark) :
    readMark? mark rest = none := by
  cases rest with
  | nil => rfl
  | cons c rest => exact if_neg (h c rfl)

/-! ## Dates -/

theorem readDate?_append (d : Date) (rest : List Char) :
    readDate? (d.chars ++ rest) = some (d, rest) := by
  obtain ⟨-, hyear, -, hmonth, -, hday⟩ := d.valid
  have hlength : monthLength d.year d.month ≤ 31 := by
    unfold monthLength
    split
    · split <;> decide
    · split <;> decide
  have hyear' := fun rest => readFixed?_padLeft 3 (n := d.year) (by omega) rest
  have hmonth' := fun rest => readFixed?_padLeft 1 (n := d.month) (by omega) rest
  have hday' := fun rest => readFixed?_padLeft 1 (n := d.day) (by omega) rest
  simp only [Nat.reduceAdd] at hyear' hmonth' hday'
  simp only [Date.chars, List.append_assoc, List.cons_append, readDate?, hyear', hmonth', hday',
    readMark?_cons, Option.bind_eq_bind, Option.bind_some, d.of?_eq, Option.map_some]

/-! ## Times of day -/

theorem readDigitRun_append {ds : List Nat} (hds : ∀ d ∈ ds, d < 10) {rest : List Char}
    (hrest : ∀ c ∈ rest.head?, Text.asciiDigit? c = none) :
    readDigitRun (ds.map digitChar ++ rest) = (ds, rest) := by
  induction ds with
  | nil =>
      cases rest with
      | nil => rfl
      | cons c rest => simp [readDigitRun, hrest c rfl]
  | cons d ds ih =>
      have htail := ih fun d hd => hds d (List.mem_cons_of_mem _ hd)
      simp [readDigitRun, asciiDigit?_digitChar (hds d List.mem_cons_self), htail]

/-- Six digits of a fraction count microseconds. -/
theorem nanoseconds_of_length {ds : List Nat} (h : ds.length = 6) :
    nanoseconds ds = ofDigits 10 ds * 1000 := by
  have htake : (ds ++ List.replicate 9 0).take 9 = ds ++ [0] ++ [0] ++ [0] := by
    rw [List.take_append, h, List.take_of_length_le (by omega)]
    simp
  rw [nanoseconds, htake, ofDigits_append, ofDigits_append, ofDigits_append]
  omega

/-- The rest of a text does not go on with the fraction of a second. -/
def EndsClock (rest : List Char) : Prop :=
  ∀ c ∈ rest.head?, Text.asciiDigit? c = none ∧ c ≠ '.'

theorem readFraction?_append (microsecond : Fin 1000000) {rest : List Char}
    (hrest : EndsClock rest) :
    readFraction? (Clock.fractionChars microsecond 0 ++ rest) =
      some ((microsecond : Nat) * 1000, rest) := by
  unfold Clock.fractionChars
  rw [if_neg (by simp)]
  split
  · have hdigits : ∀ d ∈ paddedDigits 10 6 microsecond, d < 10 :=
      paddedDigits_lt (by decide) 6 microsecond
    have hlength : (paddedDigits 10 6 microsecond).length = 6 :=
      length_paddedDigits (by decide) microsecond.isLt
    obtain ⟨d, ds, hds⟩ := List.exists_cons_of_length_pos
      (show 0 < (paddedDigits 10 6 microsecond).length by rw [hlength]; decide)
    have hrun := readDigitRun_append hdigits fun c hc => (hrest c hc).1
    have hvalue := nanoseconds_of_length hlength
    rw [ofDigits_paddedDigits] at hvalue
    rw [natChars, padLeft_eq_map, List.cons_append, readFraction?, readMark?_cons]
    rw [hds] at hrun hvalue
    rw [hds]
    simp only [hrun, hvalue]
  · rename_i hzero
    have hmark : readMark? '.' rest = none := readMark?_eq_none fun c hc => (hrest c hc).2
    rw [List.nil_append, readFraction?, hmark, Decidable.not_not.mp hzero, Nat.zero_mul]

theorem readClock?_append (c : Clock) {rest : List Char} (hrest : EndsClock rest) :
    readClock? (c.chars ++ rest) = some ((c, 0), rest) := by
  have hhour := fun rest => readFixed?_two (n := c.hour) (by omega) rest
  have hminute := fun rest => readFixed?_two (n := c.minute) (by omega) rest
  have hsecond := fun rest => readFixed?_two (n := c.second) (by omega) rest
  have hfinish : finishClock? c.hour c.minute c.second (c.microsecond * 1000) rest =
      some ((c, 0), rest) := by
    have hbelow : Timestamp.belowMicrosecond (c.microsecond * 1000) = 0 :=
      Fin.ext (Nat.mul_mod_left _ _)
    rw [finishClock?, Nat.mul_div_cancel _ (by decide), c.of?_eq, hbelow, Option.map_some]
  simp only [Clock.chars, Clock.wholeChars, List.append_assoc, List.cons_append, readClock?, hhour,
    hminute, hsecond, readMark?_cons, readFraction?_append c.microsecond hrest,
    Option.bind_eq_bind, Option.bind_some, hfinish]

/-! ## Offsets -/

/-- An offset that is a whole number of minutes. -/
def Offset.WholeMinute (o : Offset) : Prop := o.seconds % 60 = 0

theorem readSignedOffset?_chars {o : Offset} (h : o.WholeMinute) (east : Bool)
    (hsign : o.seconds = if east then (o.seconds.natAbs : Int) else -o.seconds.natAbs) :
    readSignedOffset? east (Clock.two (o.seconds.natAbs / 3600) ++
      ':' :: Clock.two (o.seconds.natAbs / 60 % 60)) = some (o, []) := by
  obtain ⟨hlow, hhigh⟩ := o.valid
  have hhour := fun rest => readFixed?_two (n := o.seconds.natAbs / 3600) (by omega) rest
  have hminute := readFixed?_two (n := o.seconds.natAbs / 60 % 60) (by omega) []
  have hwhole : (((o.seconds.natAbs / 3600 : Nat) : Int) * 3600 +
      ((o.seconds.natAbs / 60 % 60 : Nat) : Int) * 60 + ((0 : Nat) : Int)) = o.seconds.natAbs := by
    unfold Offset.WholeMinute at h
    omega
  have hseconds : readOffsetSeconds? [] = some (0, []) := rfl
  rw [List.append_nil] at hminute
  simp only [readSignedOffset?, hhour, hminute, readMark?_cons, Option.bind_eq_bind,
    Option.bind_some, hseconds, hwhole, ← hsign]
  simp [Offset.of?, hlow, hhigh]

theorem readOffset?_offsetChars {offset : Option Offset} (h : ∀ o ∈ offset, o.WholeMinute) :
    readOffset? (offsetChars offset) = some (offset, []) := by
  cases offset with
  | none => rfl
  | some o =>
      have hwhole := h o rfl
      have hseconds : o.seconds.natAbs % 60 = 0 := by
        unfold Offset.WholeMinute at hwhole
        omega
      have hchars : offsetChars (some o) = o.signChar :: (Clock.two (o.seconds.natAbs / 3600) ++
          ':' :: Clock.two (o.seconds.natAbs / 60 % 60)) := by
        simp [offsetChars, Offset.chars, Offset.charsWith, hseconds]
      rw [hchars, Offset.signChar]
      split
      · rename_i hneg
        have hread := readSignedOffset?_chars hwhole false (by rw [if_neg Bool.false_ne_true]; omega)
        simp [readOffset?, hread]
      · rename_i hpos
        have hread := readSignedOffset?_chars hwhole true (by rw [if_pos rfl]; omega)
        simp [readOffset?, hread]

theorem endsClock_offsetChars (offset : Option Offset) : EndsClock (offsetChars offset) := by
  cases offset with
  | none => simp [EndsClock, offsetChars]
  | some o =>
      intro c hc
      obtain rfl : o.signChar = c := by simpa [offsetChars, Offset.chars, Offset.charsWith] using hc
      unfold Offset.signChar
      split <;> decide

/-! ## Whole texts -/

theorem readTimestamp?_chars {m : DateTime} (h : ∀ o ∈ m.offset, o.WholeMinute)
    {separator : Char} (hseparator : separator = ' ' ∨ separator = 'T') :
    readTimestamp? (m.chars separator) = some { moment := m, nanosecond := 0 } := by
  have hclock := readClock?_append m.clock (endsClock_offsetChars m.offset)
  simp only [DateTime.chars, List.append_assoc, List.cons_append, readTimestamp?, readDate?_append,
    Option.bind_eq_bind, Option.bind_some, if_pos hseparator, hclock, Option.some_or,
    readOffset?_offsetChars h, whole?]

/-- The text of a point in time names it, to the microsecond and with its offset. -/
theorem DateTime.ofText?_text {m : DateTime} (h : ∀ o ∈ m.offset, o.WholeMinute) {separator : Char}
    (hseparator : separator = ' ' ∨ separator = 'T') :
    DateTime.ofText? (m.text separator) = some m := by
  rw [ofText?, text, String.toList_ofList, readDateTime?, readTimestamp?_chars h hseparator,
    Option.map_some]

/-- The text of a date names the beginning of the day. -/
theorem DateTime.ofText?_date (d : Date) : DateTime.ofText? d.text = some (.ofDate d) := by
  have hdate := readDate?_append d []
  rw [List.append_nil] at hdate
  rw [ofText?, Date.text, String.toList_ofList, readDateTime?, readTimestamp?, hdate]
  rfl

end RelationalMapper.Calendar
