import DesktopAutomation.Number.Decimal
import DesktopAutomation.Timestamp.Basic

/-! Runs of decimal digits, written and read.
A number reads back from its digits, whatever zeros stand before them, and a run ends where the
first other character stands.
-/

namespace DesktopAutomation.Number

/-- All characters are decimal digits. -/
def AllDigits (chars : List Char) : Prop := ∀ c ∈ chars, c.isDigit = true

/-- A text that does not go on with a digit. -/
def StopsDigits (rest : List Char) : Prop := ∀ c ∈ rest.head?, c.isDigit = false

theorem allDigits_append {left right : List Char}
    : AllDigits (left ++ right) ↔ AllDigits left ∧ AllDigits right := List.forall_mem_append

theorem allDigits_replicate (count : Nat) : AllDigits (List.replicate count '0') := by
  intro c member
  rw [List.eq_of_mem_replicate member]
  rfl

theorem allDigits_toDigits (n : Nat) : AllDigits (Nat.toDigits 10 n) := fun _ member =>
  Nat.isDigit_of_mem_toDigits (by decide) (by decide) member

/-- Only zero is written with a leading zero. -/
theorem head?_toDigits {n : Nat} (positive : 0 < n) : (Nat.toDigits 10 n).head? ≠ some '0' := by
  induction n using Nat.strongRecOn with
  | ind n ih =>
      by_cases small : n < 10
      · simpa [Nat.toDigits_of_lt_base small] using Nat.ne_of_gt positive
      · rw [Nat.toDigits_of_base_le (by decide) (by omega), List.head?_append]
        intro zero
        rcases Option.or_eq_some_iff.mp zero with first | ⟨none, _⟩
        · exact ih (n / 10) (by omega) (by omega) first
        · exact Nat.toDigits_ne_nil (List.head?_eq_none_iff.mp none)

/-- Digits are valued as the library values digits in base ten. -/
theorem digitsValue_eq (chars : List Char) : digitsValue chars = Nat.ofDigitChars 10 chars 0 := by
  rw [digitsValue, Nat.ofDigitChars_eq_foldl]
  congr 1
  funext value c
  rw [Nat.mul_comm]

/-- The digits of a number have the number as their value. -/
theorem digitsValue_toDigits (n : Nat) : digitsValue (Nat.toDigits 10 n) = n := by
  rw [digitsValue_eq, Nat.ofDigitChars_ten_toDigits]

/-- Leading zeros do not change the value. -/
theorem digitsValue_zeros (count : Nat) (chars : List Char)
    : digitsValue (List.replicate count '0' ++ chars) = digitsValue chars := by
  rw [digitsValue_eq, digitsValue_eq, Nat.ofDigitChars_append, Nat.ofDigitChars_replicate_zero,
    Nat.mul_zero]

theorem stopsDigits_nil : StopsDigits [] := by simp [StopsDigits]

/-- Digits do not go on with a character that is none. -/
theorem stopsDigits_cons {c : Char} {rest : List Char} (other : c.isDigit = false)
    : StopsDigits (c :: rest) := by
  simpa [StopsDigits] using other

/-- A run of digits is taken up to the first other character. -/
theorem takeWhile_digits {digits rest : List Char} (all : AllDigits digits)
    (stops : StopsDigits rest)
    : (digits ++ rest).takeWhile Char.isDigit = digits := by
  rw [List.takeWhile_append_of_pos all]
  cases rest with
  | nil => simp
  | cons c rest => simp [stops c rfl]

/-- Digits are split off in full where they stop. -/
theorem spanDigits_append {digits rest : List Char} (all : AllDigits digits)
    (stops : StopsDigits rest)
    : spanDigits (digits ++ rest) = (digits, rest) := by
  rw [spanDigits, takeWhile_digits all stops, List.dropWhile_append_of_pos all]
  cases rest with
  | nil => simp
  | cons c rest => simp [stops c rfl]

theorem allDigits_zeroPadded (width value : Nat) : AllDigits (zeroPadded width value) :=
  allDigits_append.mpr ⟨allDigits_replicate _, allDigits_toDigits _⟩

/-- Leading zeros do not change the value. -/
theorem digitsValue_zeroPadded (width value : Nat)
    : digitsValue (zeroPadded width value) = value := by
  rw [zeroPadded, digitsValue_zeros, digitsValue_toDigits]

theorem zeroPadded_ne_nil (width value : Nat) : zeroPadded width value ≠ [] := by
  simp [zeroPadded, Nat.toDigits_ne_nil]

/-- A number that fits its width is written in exactly that width. -/
theorem length_zeroPadded {width value : Nat} (positive : 0 < width) (fits : value < tenTo width)
    : (zeroPadded width value).length = width := by
  have short := (Nat.length_toDigits_le_iff (by decide) positive).mpr fits
  simp only [zeroPadded, List.length_append, List.length_replicate]
  omega

end DesktopAutomation.Number
