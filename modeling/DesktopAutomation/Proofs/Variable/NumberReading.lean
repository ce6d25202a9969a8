import DesktopAutomation.Proofs.Number.Numerals
import DesktopAutomation.Variable.Value

/-! Which texts read as numbers. They are the numerals of a grammar, but for two kinds of texts:
a whole number behind the mark of its radix reads as no number if it takes more than 64 bits, and
as one if a plus sign stands behind the mark.
-/

namespace DesktopAutomation.VariableValue
open Number

-----------------------------------------------------------------------------------------
-- The grammar
-----------------------------------------------------------------------------------------

/-- A text is the mark of a radix with something behind it. -/
inductive Marked (radix : Radix) (behind : List Char) : List Char → Prop
  | intro {mark} (isMark : mark ∈ radix.marks) : Marked radix behind ('0' :: mark :: behind)

/-- The texts that are told to read as numbers, without the white space at their ends. -/
inductive Numeral : List Char → Prop
  | blank : Numeral []
  | infinity {sign} (signed : OptionalSign sign) : Numeral (sign ++ "Infinity".toList)
  | whole {radix digits chars} (marked : Marked radix digits chars) (spells : radix.Spells digits)
    : Numeral chars
  | decimal {chars} (isDecimal : IsDecimal chars) : Numeral chars

/-- A whole number behind a mark that takes more than 64 bits. -/
def Oversized (chars : List Char) : Prop :=
  ∃ radix digits,
    Marked radix digits chars ∧ radix.Spells digits ∧ wordCount ≤ radix.valueOf digits

/-- A whole number of at most 64 bits with a plus sign between its mark and its digits. -/
def PlusBehindMark (chars : List Char) : Prop :=
  ∃ radix digits,
    Marked radix ('+' :: digits) chars ∧ radix.Spells digits ∧ radix.valueOf digits < wordCount

/-- Marks tell their radix. -/
theorem Marked.unique {radix other : Radix} {behind rest chars : List Char}
    (marked : Marked radix behind chars) (again : Marked other rest chars)
    : radix = other ∧ behind = rest := by
  cases marked with
  | @intro mark isMark =>
      cases again with
      | intro isOther =>
          refine ⟨?_, rfl⟩
          cases radix <;> cases other <;> simp [Radix.marks] at isMark isOther ⊢ <;> grind

theorem Marked.not_decimal {radix : Radix} {behind chars : List Char}
    (marked : Marked radix behind chars)
    : ¬IsDecimal chars := by
  intro isDecimal
  cases marked with
  | @intro mark isMark =>
      have strange : radix.marks.all (fun mark =>
          !mark.isDigit && mark ∉ ['+', '-', '.', 'e', 'E']) = true := by
        cases radix <;> decide
      have isStrange := List.all_eq_true.mp strange mark isMark
      rcases isDecimal.forall_mem mark (by simp) with digit | other <;> simp_all

theorem Marked.not_infinity {radix : Radix} {behind sign : List Char}
    (marked : Marked radix behind (sign ++ "Infinity".toList)) (signed : OptionalSign sign)
    : False := by
  cases signed <;> cases marked

/-- With a mark, a numeral consists of the mark and of digits of its radix. -/
theorem Marked.numeral_iff {radix : Radix} {behind chars : List Char}
    (marked : Marked radix behind chars)
    : Numeral chars ↔ radix.Spells behind := by
  constructor
  · intro numeral
    cases numeral with
    | blank => cases marked
    | infinity signed => exact (marked.not_infinity signed).elim
    | decimal isDecimal => exact absurd isDecimal marked.not_decimal
    | whole again spells =>
        obtain ⟨rfl, rfl⟩ := marked.unique again
        exact spells
  · exact .whole marked

-----------------------------------------------------------------------------------------
-- The reading
-----------------------------------------------------------------------------------------

/-- Digits of a radix read as a number if their value fits a word. -/
theorem radixNumber_ne_nan_iff (radix : Radix) (chars : List Char)
    : radixNumber radix.base chars ≠ .nan
      ↔ ∃ digits,
          (chars = digits ∨ chars = '+' :: digits)
          ∧ radix.Spells digits
          ∧ radix.valueOf digits < wordCount := by
  have read (value : Nat) := radix.readNatural_eq_ok_iff chars value
  rw [radixNumber]
  split
  · next value isRead =>
    refine iff_of_true (Binary64.ofNat_ne_nan value) ?_
    obtain ⟨digits, stand, spells, rfl, small⟩ := (read value).mp isRead
    exact ⟨digits, stand, spells, small⟩
  · next error fails =>
    refine iff_of_false (fun isNumber => isNumber rfl) ?_
    rintro ⟨digits, stand, spells, small⟩
    simpa [fails] using (read _).mpr ⟨digits, stand, spells, rfl, small⟩

/-- Behind the mark of a radix, its digits are read. -/
theorem trimmedNumber_of_marked {radix : Radix} {behind chars : List Char}
    (marked : Marked radix behind chars)
    : trimmedNumber chars = radixNumber radix.base behind := by
  have noWord {sign : List Char} (signed : OptionalSign sign)
      : chars ≠ sign ++ "Infinity".toList := by
    rintro rfl
    exact marked.not_infinity signed
  have noBlank : chars ≠ [] := by
    rintro rfl
    cases marked
  have noInfinity : ¬(chars = "Infinity".toList ∨ chars = "+Infinity".toList) :=
    not_or.mpr ⟨noWord .missing, noWord .plus⟩
  have noNegative : chars ≠ "-Infinity".toList := noWord .minus
  unfold trimmedNumber
  rw [if_neg noBlank, if_neg noInfinity, if_neg noNegative]
  cases marked with
  | intro isMark =>
      cases radix <;>
        simp only [Radix.marks, List.mem_cons, List.not_mem_nil, or_false] at isMark <;>
        rcases isMark with rfl | rfl <;> rfl

/-- Without a mark, and unless it is blank or infinity, a text is read as a decimal. -/
theorem trimmedNumber_of_unmarked {chars : List Char} (noBlank : chars ≠ [])
    (noWord : ∀ sign, OptionalSign sign → chars ≠ sign ++ "Infinity".toList)
    (unmarked : ∀ radix behind, ¬Marked radix behind chars)
    : trimmedNumber chars
      = if chars.all isDecimalChar then (readDecimal chars).getD .nan else .nan := by
  have noMark (radix : Radix) (mark : Char) (isMark : mark ∈ radix.marks) (behind : List Char)
      : chars ≠ '0' :: mark :: behind := by
    rintro rfl
    exact unmarked radix behind (.intro isMark)
  have noInfinity : ¬(chars = "Infinity".toList ∨ chars = "+Infinity".toList) :=
    not_or.mpr ⟨noWord [] .missing, noWord ['+'] .plus⟩
  have noNegative : chars ≠ "-Infinity".toList := noWord ['-'] .minus
  unfold trimmedNumber
  rw [if_neg noBlank, if_neg noInfinity, if_neg noNegative]
  split
  · exact absurd rfl (noMark .hexadecimal 'x' (by decide) _)
  · exact absurd rfl (noMark .hexadecimal 'X' (by decide) _)
  · exact absurd rfl (noMark .octal 'o' (by decide) _)
  · exact absurd rfl (noMark .octal 'O' (by decide) _)
  · exact absurd rfl (noMark .binary 'b' (by decide) _)
  · exact absurd rfl (noMark .binary 'B' (by decide) _)
  · rfl

/-- Decimals read as numbers, and no other text that is read as a decimal does. -/
theorem decimalNumber_ne_nan_iff (chars : List Char)
    : (if chars.all isDecimalChar then (readDecimal chars).getD .nan else .nan) ≠ .nan
      ↔ IsDecimal chars := by
  rw [← readDecimal_isSome_iff]
  by_cases filtered : chars.all isDecimalChar
  · rw [if_pos filtered]
    cases read : readDecimal chars with
    | none => simp
    | some value =>
        refine iff_of_true (fun isNan => ?_) rfl
        exact readDecimal_ne_nan chars (read.trans (congrArg some isNan))
  · rw [if_neg filtered]
    refine iff_of_false (fun isNumber => isNumber rfl) (fun read => filtered ?_)
    have consists := ((readDecimal_isSome_iff chars).mp read).forall_mem
    simpa only [List.all_eq_true, isDecimalChar, Bool.or_eq_true, decide_eq_true_eq] using consists

/-- A text with a mark reads as a number exactly if it is a numeral of at most 64 bits, apart from a
plus sign behind the mark.
-/
theorem marked_ne_nan_iff {radix : Radix} {behind chars : List Char}
    (marked : Marked radix behind chars)
    : trimmedNumber chars ≠ .nan ↔ Numeral chars ∧ ¬Oversized chars ∨ PlusBehindMark chars := by
  rw [trimmedNumber_of_marked marked, radixNumber_ne_nan_iff]
  constructor
  · rintro ⟨digits, rfl | rfl, spells, small⟩
    · refine .inl ⟨.whole marked spells, ?_⟩
      rintro ⟨other, rest, again, -, large⟩
      obtain ⟨rfl, rfl⟩ := marked.unique again
      exact absurd large (Nat.not_le.mpr small)
    · exact .inr ⟨radix, digits, marked, spells, small⟩
  · rintro (⟨numeral, fits⟩ | ⟨other, digits, again, spells, small⟩)
    · have spells := marked.numeral_iff.mp numeral
      have small := Nat.not_le.mp fun large => fits ⟨_, _, marked, spells, large⟩
      exact ⟨behind, .inl rfl, spells, small⟩
    · obtain ⟨rfl, rfl⟩ := marked.unique again
      exact ⟨digits, .inr rfl, spells, small⟩

theorem unmarked_ne_nan_iff {chars : List Char}
    (unmarked : ∀ radix behind, ¬Marked radix behind chars)
    : trimmedNumber chars ≠ .nan ↔ Numeral chars := by
  by_cases blank : chars = []
  · subst blank
    exact iff_of_true (by unfold trimmedNumber; simp) .blank
  · by_cases word : ∃ sign, OptionalSign sign ∧ chars = sign ++ "Infinity".toList
    · obtain ⟨sign, signed, rfl⟩ := word
      refine iff_of_true ?_ (.infinity signed)
      cases signed <;> unfold trimmedNumber <;> simp
    · have noWord : ∀ sign, OptionalSign sign → chars ≠ sign ++ "Infinity".toList :=
        fun sign signed same => word ⟨sign, signed, same⟩
      rw [trimmedNumber_of_unmarked blank noWord unmarked, decimalNumber_ne_nan_iff]
      constructor
      · exact .decimal
      · intro numeral
        cases numeral with
        | blank => exact absurd rfl blank
        | infinity signed => exact absurd rfl (noWord _ signed)
        | whole marked => exact absurd marked (unmarked _ _)
        | decimal isDecimal => exact isDecimal

/-- The texts that read as numbers are the numerals whose digits behind a mark fit 64 bits, and
those with a plus sign behind the mark.
-/
theorem trimmedNumber_ne_nan_iff (chars : List Char)
    : trimmedNumber chars ≠ .nan ↔ Numeral chars ∧ ¬Oversized chars ∨ PlusBehindMark chars := by
  by_cases marked : ∃ radix behind, Marked radix behind chars
  · obtain ⟨radix, behind, marked⟩ := marked
    exact marked_ne_nan_iff marked
  · have unmarked : ∀ radix behind, ¬Marked radix behind chars :=
      fun radix behind isMarked => marked ⟨radix, behind, isMarked⟩
    have fits : ¬Oversized chars := fun ⟨radix, digits, isMarked, _⟩ => unmarked _ _ isMarked
    have noPlus : ¬PlusBehindMark chars := fun ⟨radix, digits, isMarked, _⟩ => unmarked _ _ isMarked
    rw [unmarked_ne_nan_iff unmarked, or_iff_left noPlus, and_iff_left fits]

theorem Oversized.numeral {chars : List Char} (oversized : Oversized chars) : Numeral chars := by
  obtain ⟨radix, digits, marked, spells, -⟩ := oversized
  exact .whole marked spells

theorem PlusBehindMark.not_numeral {chars : List Char} (plus : PlusBehindMark chars)
    : ¬Numeral chars := by
  obtain ⟨radix, digits, marked, -⟩ := plus
  rw [marked.numeral_iff]
  exact fun spells => radix.not_isDigit_plus (spells.all '+' List.mem_cons_self)

/-- A text reads as a number just if it is a numeral, unless its digits behind a mark are too many
or a plus sign stands before them.
-/
theorem trimmedNumber_agrees_iff (chars : List Char)
    : (trimmedNumber chars ≠ .nan ↔ Numeral chars) ↔ ¬Oversized chars ∧ ¬PlusBehindMark chars := by
  have numeral : Oversized chars → Numeral chars := Oversized.numeral
  have noNumeral : PlusBehindMark chars → ¬Numeral chars := PlusBehindMark.not_numeral
  rw [trimmedNumber_ne_nan_iff]
  grind

end DesktopAutomation.VariableValue
