import DesktopAutomation.Proofs.Number.Digits
import DesktopAutomation.Timestamp.Reading

/-! The text of a timestamp reads back as the timestamp, for every year and every fraction.
Each part is read by its own lemma, with any text behind it.
-/

namespace DesktopAutomation

/-- A clock at the zero meridian shows the time itself. -/
theorem CivilTime.behind_zero {time : CivilTime} (hour : time.hour < 24) (minute : time.minute < 60)
    : time.behind 0 = time := by
  have total
      : ((time.hour * 60 + time.minute : Int) - 0) % 1440
        = time.hour * 60 + time.minute := by
    omega
  have hours : (time.hour * 60 + time.minute : Int).toNat / 60 = time.hour := by omega
  have minutes : (time.hour * 60 + time.minute : Int).toNat % 60 = time.minute := by omega
  rw [behind, total, hours, minutes, if_neg (by omega), if_neg (by omega)]

namespace Timestamp
open Number Text

theorem isBlank_of_isDigit {c : Char} (digit : c.isDigit = true) : isBlank c = false := by
  simp only [Char.isDigit, Bool.and_eq_true, decide_eq_true_eq, UInt32.le_iff_toNat_le] at digit
  have low : 48 ≤ c.toNat := digit.1
  have high : c.toNat ≤ 57 := digit.2
  simp only [isBlank, Bool.or_eq_false_iff, Bool.and_eq_false_iff, decide_eq_false_iff_not,
    beq_eq_false_iff_ne]
  omega

/-- No blanks are skipped before digits. -/
theorem skipBlank_digits {digits : List Char} (some : digits ≠ []) (all : AllDigits digits)
    (rest : List Char)
    : skipBlank (digits ++ rest) = digits ++ rest := by
  cases digits with
  | nil => exact absurd rfl some
  | cons c digits =>
      rw [skipBlank, List.cons_append, List.dropWhile_cons,
        isBlank_of_isDigit (all c List.mem_cons_self), if_neg Bool.false_ne_true]

/-- A number ends at the given width, or before it where no digit stands. -/
theorem readNumber?_digits {width : Nat} {digits rest : List Char} (some : digits ≠ [])
    (all : AllDigits digits) (fits : digits.length ≤ width)
    (stops : digits.length = width ∨ StopsDigits rest)
    : readNumber? width (digits ++ rest) = .some (digitsValue digits, rest) := by
  have taken : ((digits ++ rest).take width).takeWhile Char.isDigit = digits := by
    rw [List.take_append, List.take_of_length_le fits]
    refine takeWhile_digits all ?_
    rcases stops with exact | stops
    · simp [exact, StopsDigits]
    · intro c first
      rw [List.head?_take] at first
      split at first
      · simp at first
      · exact stops c first
  rw [readNumber?, taken, if_neg some, List.drop_left]

theorem readPart?_zeroPadded {value : Nat} (fits : value < 100) (rest : List Char)
    : readPart? (zeroPadded 2 value ++ rest) = some (value, rest) := by
  have length : (zeroPadded 2 value).length = 2 := length_zeroPadded (by decide) fits
  rw [readPart?, skipBlank_digits (zeroPadded_ne_nil _ _) (allDigits_zeroPadded _ _),
    readNumber?_digits (zeroPadded_ne_nil _ _) (allDigits_zeroPadded _ _) (Nat.le_of_eq length)
      (.inl length),
    digitsValue_zeroPadded]

theorem readSeparator?_cons {mark : Char} (shown : isBlank mark = false) (rest : List Char)
    : readSeparator? mark (mark :: rest) = some rest := by
  simp [readSeparator?, skipBlank, shown]

theorem readTimeMark?_mark (rest : List Char) : readTimeMark? ('T' :: rest) = some rest := by
  rw [readTimeMark?, if_pos (.inl rfl)]

/-- A year without a sign has four digits at most. -/
theorem readYear?_digits {digits rest : List Char} (some : digits ≠ []) (all : AllDigits digits)
    (fits : digits.length ≤ 4) (stops : StopsDigits rest)
    : readYear? (digits ++ rest) = .some ((digitsValue digits : Int), rest) := by
  rw [readYear?, skipBlank_digits some all]
  split
  · next unsigned =>
      cases digits with
      | nil => exact absurd rfl some
      | cons c digits =>
          obtain ⟨rfl, _⟩ := List.cons.inj unsigned
          exact absurd (all _ List.mem_cons_self) (by decide)
  · next unsigned =>
      cases digits with
      | nil => exact absurd rfl some
      | cons c digits =>
          obtain ⟨rfl, _⟩ := List.cons.inj unsigned
          exact absurd (all _ List.mem_cons_self) (by decide)
  · rw [readNumber?_digits some all fits (.inr stops), Option.map_some]

theorem readYear?_yearText (year : Int) (rest : List Char)
    : readYear? (yearText year ++ '-' :: rest) = some (year, '-' :: rest) := by
  have stops : StopsDigits ('-' :: rest) := stopsDigits_cons rfl
  have signed (value : Nat)
      : readNumber? (zeroPadded 4 value ++ '-' :: rest).length (zeroPadded 4 value ++ '-' :: rest)
        = some (value, '-' :: rest) := by
    rw [readNumber?_digits (zeroPadded_ne_nil _ _) (allDigits_zeroPadded _ _) (by simp)
        (.inr stops),
      digitsValue_zeroPadded]
  rw [yearText]
  split
  · next small =>
      have fits : year.toNat < 10000 := by omega
      have length : (zeroPadded 4 year.toNat).length = 4 := length_zeroPadded (by decide) fits
      rw [readYear?_digits (zeroPadded_ne_nil _ _) (allDigits_zeroPadded _ _)
          (Nat.le_of_eq length) stops,
        digitsValue_zeroPadded, Int.toNat_of_nonneg small.1]
  · split
    · next negative =>
        have : isBlank '-' = false := by decide
        simp only [readYear?, skipBlank, List.cons_append, List.dropWhile_cons, this,
          Bool.false_eq_true, if_false, signed, Option.map_some]
        rw [Int.ofNat_natAbs_of_nonpos (by omega), Int.neg_neg]
    · next nonnegative =>
        have : isBlank '+' = false := by decide
        simp only [readYear?, skipBlank, List.cons_append, List.dropWhile_cons, this,
          Bool.false_eq_true, if_false, signed, Option.map_some]
        rw [Int.natAbs_of_nonneg (by omega)]

/-- A fraction written in `width` of nine digits counts as many billionths as it lacks digits. -/
theorem readFraction?_zeroPadded {width value : Nat} {rest : List Char} (some : 0 < width)
    (short : width ≤ 9) (fits : value < tenTo width) (stops : StopsDigits rest)
    : readFraction? ('.' :: zeroPadded width value ++ rest)
      = .some (value * tenTo (9 - width), rest) := by
  have length := length_zeroPadded some fits
  have behind : (zeroPadded width value ++ rest).drop width = rest := List.drop_left' length
  simp only [List.cons_append, readFraction?, takeWhile_digits (allDigits_zeroPadded _ _) stops,
    if_neg (zeroPadded_ne_nil _ _),
    List.take_of_length_le (Nat.le_trans (Nat.le_of_eq length) short), length,
    digitsValue_zeroPadded, behind]

theorem readFraction?_fractionText {nano : Nat} (fits : nano < 1000000000) (rest : List Char)
    : readFraction? (fractionText nano ++ 'Z' :: rest) = some (nano, 'Z' :: rest) := by
  have stops : StopsDigits ('Z' :: rest) := stopsDigits_cons rfl
  rw [fractionText]
  split
  · next zero =>
      subst zero
      rfl
  split
  · next millis =>
      have few : nano / 1000000 < tenTo 3 := Nat.div_lt_of_lt_mul fits
      rw [readFraction?_zeroPadded (by decide) (by decide) few stops]
      have : tenTo (9 - 3) = 1000000 := rfl
      rw [this, Nat.div_mul_cancel (Nat.dvd_of_mod_eq_zero millis)]
  split
  · next micros =>
      have few : nano / 1000 < tenTo 6 := Nat.div_lt_of_lt_mul fits
      rw [readFraction?_zeroPadded (by decide) (by decide) few stops]
      have : tenTo (9 - 6) = 1000 := rfl
      rw [this, Nat.div_mul_cancel (Nat.dvd_of_mod_eq_zero micros)]
  · rw [readFraction?_zeroPadded (by decide) (by decide) fits stops]
    have : tenTo (9 - 9) = 1 := rfl
    rw [this, Nat.mul_one]

theorem bind_eq_some_of {α β : Type} {first? : Option α} {next? : α → Option β} {a : α} {b : β}
    (first : first? = some a) (next : next? a = some b)
    : first?.bind next? = some b :=
  Option.bind_eq_some_iff.mpr ⟨a, first, next⟩

/-- A timestamp reads back from its text. -/
theorem ofText?_text (time : Timestamp) : ofText? time.text = some time := by
  obtain ⟨civil, valid⟩ := time
  obtain ⟨_, _, month, _, day, hour, minute, second, nano⟩ := id valid
  have days : daysOfMonth civil.year civil.month ≤ 31 := by
    rw [daysOfMonth]
    repeat' split
    all_goals omega
  have shown
      : (text ⟨civil, valid⟩).toList
        = yearText civil.year ++ '-' :: (zeroPadded 2 civil.month
          ++ '-' :: (zeroPadded 2 civil.day ++ 'T' :: (zeroPadded 2 civil.hour
          ++ ':' :: (zeroPadded 2 civil.minute ++ ':' :: (zeroPadded 2 civil.second
          ++ (fractionText civil.nano ++ ['Z'])))))) := by
    simp only [text, localText, String.toList_ofList, List.append_assoc, List.cons_append]
  rw [ofText?, shown]
  apply bind_eq_some_of (readYear?_yearText ..)
  apply bind_eq_some_of (readSeparator?_cons (by decide) _)
  apply bind_eq_some_of (readPart?_zeroPadded (by omega) _)
  apply bind_eq_some_of (readSeparator?_cons (by decide) _)
  apply bind_eq_some_of (readPart?_zeroPadded (by omega) _)
  apply bind_eq_some_of (readTimeMark?_mark _)
  apply bind_eq_some_of (readPart?_zeroPadded (by omega) _)
  apply bind_eq_some_of (readSeparator?_cons (by decide) _)
  apply bind_eq_some_of (readPart?_zeroPadded (by omega) _)
  apply bind_eq_some_of (readSeparator?_cons (by decide) _)
  apply bind_eq_some_of (readPart?_zeroPadded (by omega) _)
  apply bind_eq_some_of (readFraction?_fractionText nano _)
  apply bind_eq_some_of (by decide : readZone? ['Z'] = some (0, []))
  show (if civil.Valid ∧ (0 : Int).natAbs < 1440 ∧ skipBlank [] = [] then
      if valid : (civil.behind 0).Valid then some (Timestamp.mk (civil.behind 0) valid) else none
    else none) = _
  have same : civil.behind 0 = civil := CivilTime.behind_zero hour minute
  simp only [same]
  rw [if_pos ⟨valid, by decide, rfl⟩, dif_pos valid]

end Timestamp

end DesktopAutomation
