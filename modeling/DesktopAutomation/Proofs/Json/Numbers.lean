import DesktopAutomation.Json.Printer
import DesktopAutomation.Json.Token
import DesktopAutomation.Proofs.Number.Digits

/-! The texts of JSON numbers are literals, those of doubles included.
An integer reads back as itself. A double may not: its literal is scaled by a rounded power of ten,
so what it reads as is told apart.
-/

namespace DesktopAutomation
open Number

namespace NumberLiteral

-----------------------------------------------------------------------------------------
-- Writing literals
-----------------------------------------------------------------------------------------

/-- The sign of a literal. -/
def signText (negative : Bool) : List Char := if negative then ['-'] else []

/-- The part of a literal behind a point. -/
def fractionPart (fraction : Option (List Char)) : List Char := fraction.elim [] ('.' :: ·)

/-- Digits that may stand before a point: no zero comes first unless it stands alone. -/
structure Whole (digits : List Char) : Prop where
  all : AllDigits digits
  some : digits ≠ []
  leading : digits.head? = .some '0' → digits = ['0']

/-- A text is a literal without a sign. -/
structure Magnitude (chars whole : List Char) (fraction : Option (List Char))
    (exponent : Option Int) : Prop where
  integral : Whole whole
  decimals : ∀ digits ∈ fraction, digits ≠ [] ∧ AllDigits digits
  spelled
    : ∃ tail, exponentPart? tail = some exponent ∧ chars = whole ++ (fractionPart fraction ++ tail)

theorem whole_toDigits (n : Nat) : Whole (Nat.toDigits 10 n) where
  all := allDigits_toDigits n
  some := Nat.toDigits_ne_nil
  leading first := by
    rcases Nat.eq_zero_or_pos n with rfl | positive
    · rfl
    · exact absurd first (head?_toDigits positive)

/-- The first digits of a number may stand before a point. -/
theorem Whole.take {digits : List Char} (whole : Whole digits) (count : Nat) (some : 0 < count)
    : Whole (digits.take count) where
  all c member := whole.all c (List.mem_of_mem_take member)
  some := by
    rw [ne_eq, List.take_eq_nil_iff, not_or]
    exact ⟨(Nat.ne_of_gt some), whole.some⟩
  leading first := by
    rw [List.head?_take, if_neg (Nat.ne_of_gt some)] at first
    rw [whole.leading first, List.take_of_length_le (Nat.succ_le_of_lt some)]

/-- Zeros may stand behind a number other than zero. -/
theorem Whole.append_zeros {digits : List Char} (whole : Whole digits)
    (positive : digits.head? ≠ .some '0') (count : Nat)
    : Whole (digits ++ List.replicate count '0') where
  all := allDigits_append.mpr ⟨whole.all, allDigits_replicate _⟩
  some := List.append_ne_nil_of_left_ne_nil whole.some _
  leading first := by
    rw [List.head?_append] at first
    rcases Option.or_eq_some_iff.mp first with own | ⟨none, _⟩
    · exact absurd own positive
    · exact absurd (List.head?_eq_none_iff.mp none) whole.some

/-- An exponent part stands behind digits and no point, or is missing. -/
theorem exponentPart?_starts {tail : List Char} {exponent : Option Int}
    (parsed : exponentPart? tail = some exponent)
    : StopsDigits tail ∧ tail.head? ≠ some '.' := by
  cases tail with
  | nil => exact ⟨stopsDigits_nil, by simp⟩
  | cons mark rest =>
      rw [exponentPart?] at parsed
      split at parsed
      · next marked =>
          rcases marked with rfl | rfl <;> exact ⟨stopsDigits_cons rfl, by simp⟩
      · simp at parsed

theorem magnitude_toDigits (n : Nat)
    : Magnitude (Nat.toDigits 10 n) (Nat.toDigits 10 n) none none :=
  ⟨whole_toDigits n, by simp, [], rfl, by simp [fractionPart]⟩

theorem exponentPart?_exponentText (exponent : Int)
    : exponentPart? (exponentText exponent) = some (some exponent) := by
  have digits
      : allDigits? (Nat.toDigits 10 exponent.natAbs)
        = some (Nat.toDigits 10 exponent.natAbs) := by
    rw [allDigits?, if_pos ⟨Nat.toDigits_ne_nil, List.all_eq_true.mpr (allDigits_toDigits _)⟩]
  rw [exponentText, exponentPart?, if_pos (.inl rfl)]
  by_cases negative : exponent < 0
  · simp only [negative, if_true, takeSign, digits, Option.map_some, digitsValue_toDigits]
    rw [Int.ofNat_natAbs_of_nonpos (by omega), Int.neg_neg]
  · simp only [negative, if_false, takeSign, digits, Option.map_some, digitsValue_toDigits,
      Bool.false_eq_true]
    rw [Int.natAbs_of_nonneg (by omega)]

/-- Takes a literal apart behind its sign. -/
def behindSign? (negative : Bool) (chars : List Char) : Option NumberLiteral :=
  let (whole, rest) := spanDigits chars
  if whole = [] ∨ (whole.head? = some '0' ∧ whole ≠ ['0']) then
    none
  else
    match rest with
    | '.' :: behind =>
      let (fraction, tail) := spanDigits behind
      if fraction = [] then none
      else (exponentPart? tail).map (⟨negative, whole, some fraction, ·⟩)
    | _ => (exponentPart? rest).map (⟨negative, whole, none, ·⟩)

theorem ofChars?_sign (negative : Bool) {chars : List Char}
    (unsigned : ∀ rest, chars ≠ '-' :: rest)
    : ofChars? (signText negative ++ chars) = behindSign? negative chars := by
  cases negative with
  | true => rfl
  | false =>
      rw [signText, if_neg Bool.false_ne_true, List.nil_append, ofChars?]
      · rfl
      · exact unsigned

/-- A literal starts with a digit. -/
theorem Magnitude.first {chars whole : List Char} {fraction : Option (List Char)}
    {exponent : Option Int} (magnitude : Magnitude chars whole fraction exponent)
    : ∃ c rest, chars = c :: rest ∧ c.isDigit = true := by
  obtain ⟨integral, _, tail, _, rfl⟩ := magnitude
  cases whole with
  | nil => exact absurd rfl integral.some
  | cons c rest => exact ⟨c, _, rfl, integral.all c List.mem_cons_self⟩

/-- What is spelled as a literal is taken apart into its parts. -/
theorem Magnitude.ofChars?_eq {chars whole : List Char} {fraction : Option (List Char)}
    {exponent : Option Int} (magnitude : Magnitude chars whole fraction exponent) (negative : Bool)
    : ofChars? (signText negative ++ chars) = some ⟨negative, whole, fraction, exponent⟩ := by
  have unsigned : ∀ rest, chars ≠ '-' :: rest := by
    rintro rest rfl
    obtain ⟨c, _, same, digit⟩ := magnitude.first
    obtain ⟨rfl, _⟩ := List.cons.inj same
    exact absurd digit (by decide)
  obtain ⟨⟨all, some, leading⟩, decimals, tail, parsed, rfl⟩ := magnitude
  obtain ⟨stops, noPoint⟩ := exponentPart?_starts parsed
  have sound : ¬(whole = [] ∨ whole.head? = .some '0' ∧ whole ≠ ['0']) := by
    rintro (none | ⟨zero, more⟩)
    · exact some none
    · exact more (leading zero)
  rw [ofChars?_sign negative unsigned, behindSign?]
  cases fraction with
  | none =>
      simp only [fractionPart, Option.elim_none, List.nil_append, spanDigits_append all stops,
        if_neg sound]
      split
      · next behind => simp at noPoint
      · rw [parsed, Option.map_some]
  | some fraction =>
      obtain ⟨more, moreDigits⟩ := decimals fraction rfl
      have point : StopsDigits ('.' :: (fraction ++ tail)) := stopsDigits_cons rfl
      simp only [fractionPart, Option.elim_some, List.cons_append, spanDigits_append all point,
        if_neg sound, spanDigits_append moreDigits stops, if_neg more, parsed, Option.map_some]

-----------------------------------------------------------------------------------------
-- What literals consist of
-----------------------------------------------------------------------------------------

theorem isNumberChar_of_isDigit {c : Char} (digit : c.isDigit = true)
    : JsonToken.isNumberChar c = true := by
  simp [JsonToken.isNumberChar, digit]

theorem mem_takeSign {chars : List Char} {c : Char} (member : c ∈ chars)
    : c = '-' ∨ c = '+' ∨ c ∈ (takeSign chars).2 := by
  unfold takeSign
  split
  · rcases List.mem_cons.mp member with rfl | behind
    · exact .inl rfl
    · exact .inr (.inr behind)
  · rcases List.mem_cons.mp member with rfl | behind
    · exact .inr (.inl rfl)
    · exact .inr (.inr behind)
  · exact .inr (.inr member)

theorem exponentPart?_chars {tail : List Char} {exponent : Option Int}
    (parsed : exponentPart? tail = some exponent)
    : ∀ c ∈ tail, JsonToken.isNumberChar c = true := by
  cases tail with
  | nil => simp
  | cons mark rest =>
      rw [exponentPart?] at parsed
      split at parsed
      · next marked =>
          obtain ⟨digits, all, _⟩ := Option.map_eq_some_iff.mp parsed
          rw [allDigits?, Option.ite_none_right_eq_some, List.all_eq_true] at all
          refine List.forall_mem_cons.mpr ⟨by rcases marked with rfl | rfl <;> rfl, ?_⟩
          intro c member
          rcases mem_takeSign member with rfl | rfl | digit
          · rfl
          · rfl
          · exact isNumberChar_of_isDigit (all.1.2 c digit)
      · simp at parsed

/-- A literal consists of number characters. -/
theorem Magnitude.chars {chars whole : List Char} {fraction : Option (List Char)}
    {exponent : Option Int} (magnitude : Magnitude chars whole fraction exponent)
    : ∀ c ∈ chars, JsonToken.isNumberChar c = true := by
  obtain ⟨integral, decimals, tail, parsed, rfl⟩ := magnitude
  have behind : ∀ c ∈ fractionPart fraction, JsonToken.isNumberChar c = true := by
    cases fraction with
    | none => simp [fractionPart]
    | some digits =>
        exact List.forall_mem_cons.mpr
          ⟨rfl, fun c member => isNumberChar_of_isDigit ((decimals digits rfl).2 c member)⟩
  refine List.forall_mem_append.mpr
    ⟨fun c member => isNumberChar_of_isDigit (integral.all c member), ?_⟩
  exact List.forall_mem_append.mpr ⟨behind, exponentPart?_chars parsed⟩

end NumberLiteral

-----------------------------------------------------------------------------------------
-- Doubles
-----------------------------------------------------------------------------------------

namespace Number

/-- The digits of a shortest decimal are a positive number, unless none was found. -/
theorem Finite.shortest_positive {value : Finite} (nonzero : value.place.val ≠ 0)
    : 0 < value.shortest.1 ∨ value.shortest.2 = 0 := by
  have mantissa : 0 < value.scaled.1 := by
    rw [scaled]
    split
    · next first =>
        have := Nat.div_add_mod value.place.val octaveSize
        rw [first, Nat.mul_zero, Nat.zero_add] at this
        simp only [this]
        omega
    · simp only [octaveSize]
      omega
  have low : 0 < value.roundingRange.low := by
    have narrow (closer : Prop) [Decidable closer] : (if closer then 1 else 2) ≤ 2 := by
      split <;> decide
    have wide : 2 < 4 * value.scaled.1 := by omega
    exact Nat.mul_pos (Nat.sub_pos_of_lt (Nat.lt_of_le_of_lt (narrow _) wide)) (twoTo_pos _)
  have positive {digits : Nat} {exponent : Int}
      (holds : value.roundingRange.holds digits exponent = true) : 0 < digits := by
    refine Nat.pos_of_ne_zero fun zero => ?_
    have scaled := Nat.mul_pos low (tenTo_pos (-exponent).toNat)
    subst zero
    simp only [RoundingRange.holds, Nat.zero_mul] at holds
    split at holds
    · rw [Bool.and_eq_true, decide_eq_true_eq, decide_eq_true_eq] at holds
      exact absurd (Nat.lt_of_lt_of_le scaled holds.1) (Nat.lt_irrefl 0)
    · rw [Bool.and_eq_true, decide_eq_true_eq, decide_eq_true_eq] at holds
      exact absurd (Nat.lt_trans scaled holds.1) (Nat.lt_irrefl 0)
  rw [shortest]
  simp only
  generalize found : List.findSome? _ _ = result
  cases result with
  | none => exact .inr rfl
  | some decimal =>
      obtain ⟨more, _, chosen⟩ := List.exists_of_findSome?_eq_some found
      obtain ⟨digits, holds, rfl⟩ := Option.map_eq_some_iff.mp chosen
      have holds := List.find?_some holds
      exact .inl (positive holds)

/-- A decimal is written as a literal, if it has a digit other than zero or no exponent. -/
theorem decimalText_magnitude {digits : Nat} {exponent : Int} (sound : 0 < digits ∨ exponent = 0)
    : ∃ whole fraction power,
        NumberLiteral.Magnitude (decimalText digits exponent) whole fraction power := by
  unfold decimalText
  extract_lets digitsText leading
  have size : 0 < digitsText.length := Nat.length_toDigits_pos
  have shown : NumberLiteral.Whole digitsText := NumberLiteral.whole_toDigits digits
  have positive : 0 < digits → digitsText.head? ≠ some '0' := head?_toDigits
  clear_value digitsText
  split
  · next positional =>
      split
      · next upward =>
          -- zeros behind the digits of a positive number
          refine ⟨digitsText ++ List.replicate exponent.toNat '0', some ['0'], none, {
            integral := ?_
            decimals := by simp [AllDigits]
            spelled := ⟨[], rfl, rfl⟩
          }⟩
          rcases sound with counts | rfl
          · exact shown.append_zeros (positive counts) _
          · simpa using shown
      split
      · next downward inside =>
          refine ⟨_, some (digitsText.drop (leading.toNat + 1)), none, {
            integral := shown.take (leading.toNat + 1) (Nat.succ_pos _)
            decimals := ?_
            spelled := ⟨[], rfl, by rw [List.append_nil]; exact rfl⟩
          }⟩
          rintro _ ⟨⟩
          exact ⟨by rw [ne_eq, List.drop_eq_nil_iff]; omega,
            fun c member => shown.all c (List.mem_of_mem_drop member)⟩
      · refine ⟨['0'], some (List.replicate ((-leading).toNat - 1) '0' ++ digitsText), none, {
          integral := NumberLiteral.whole_toDigits 0
          decimals := ?_
          spelled := ⟨[], rfl, by rw [List.append_nil]; exact rfl⟩
        }⟩
        rintro _ ⟨⟩
        exact ⟨by simp [shown.some], allDigits_append.mpr ⟨allDigits_replicate _, shown.all⟩⟩
  · have power := NumberLiteral.exponentPart?_exponentText leading
    match digitsText, shown with
    | [], shown => exact absurd rfl shown.some
    | [only], shown => exact ⟨[only], none, _, shown, by simp, _, power, rfl⟩
    | first :: second :: rest, shown =>
        refine ⟨[first], some (second :: rest), _, shown.take 1 Nat.one_pos, ?_, _,
          power, rfl⟩
        rintro _ ⟨⟩
        exact ⟨List.cons_ne_nil _ _, fun c member => shown.all c (List.mem_cons_of_mem _ member)⟩

end Number

-----------------------------------------------------------------------------------------
-- Numbers
-----------------------------------------------------------------------------------------

namespace JsonNumber
open NumberLiteral

/-- The text of every number is a literal. -/
theorem text_literal (number : JsonNumber)
    : ∃ negative chars whole fraction exponent,
        number.text = signText negative ++ chars ∧ Magnitude chars whole fraction exponent := by
  cases number with
  | natural value => exact ⟨false, _, _, _, _, rfl, magnitude_toDigits value.toNat⟩
  | negative predecessor => exact ⟨true, _, _, _, _, rfl, magnitude_toDigits (predecessor.val + 1)⟩
  | float value =>
      have signed (chars : List Char)
          : (if value.negative = true then '-' :: chars else chars)
            = signText value.negative ++ chars := by
        cases value.negative <;> rfl
      rw [text, Finite.text, String.toList_ofList]
      simp only [signed]
      split
      · next zero =>
          have magnitude : Magnitude ['0', '.', '0'] ['0'] (some ['0']) none :=
            ⟨whole_toDigits 0, by simp [AllDigits], [], rfl, rfl⟩
          exact ⟨value.negative, _, _, _, _, rfl, magnitude⟩
      · next nonzero =>
          obtain ⟨_, _, _, magnitude⟩ := decimalText_magnitude (Finite.shortest_positive nonzero)
          exact ⟨value.negative, _, _, _, _, rfl, magnitude⟩

/-- What the text of a number reads as; a double may be scaled out of range. -/
def reread? (number : JsonNumber) : Option JsonNumber :=
  (ofChars? number.text).bind NumberLiteral.number?

/-- An integer reads back as itself. -/
theorem reread?_of_integer {number : JsonNumber} (integer : number.integer?.isSome = true)
    : number.reread? = some number := by
  cases number with
  | natural value =>
      have small : value.toNat < wordCount := value.toNat_lt
      have literal := (magnitude_toDigits value.toNat).ofChars?_eq false
      rw [signText, if_neg Bool.false_ne_true, List.nil_append] at literal
      simp [reread?, text, literal, number?, digitsValue_toDigits, small]
  | negative predecessor =>
      have literal := (magnitude_toDigits (predecessor.val + 1)).ofChars?_eq true
      rw [signText, if_pos rfl, List.singleton_append] at literal
      have small : predecessor.val + 1 ≤ firstBit := predecessor.isLt
      simp [reread?, text, literal, number?, digitsValue_toDigits, small]
  | float value => simp [integer?] at integer

end JsonNumber

end DesktopAutomation
