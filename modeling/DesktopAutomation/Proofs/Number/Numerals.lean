import DesktopAutomation.Number.Natural
import DesktopAutomation.Proofs.Number.Digits

/-! The numerals of plain texts, told as a grammar: decimals with a sign, a point and an exponent,
and whole numbers in a radix behind its mark. Decimals are read exactly if they are of the grammar.
Digits of a radix are read as long as their value fits a word, with a plus sign or without.
-/

namespace DesktopAutomation.Number

-----------------------------------------------------------------------------------------
-- Rounded numbers
-----------------------------------------------------------------------------------------

namespace Binary64

/-- Every quotient rounds to a number, or to an infinite one. -/
theorem ofRatio_ne_nan (negative : Bool) (num den : Nat) : ofRatio negative num den ≠ .nan := by
  rw [ofRatio]
  split <;> simp

theorem ofNat_ne_nan (n : Nat) : ofNat n ≠ .nan := ofRatio_ne_nan false n 1

/-- What digits and an exponent name is a number, however great or small. -/
theorem ofDecimal_ne_nan (negative : Bool) (digits : Nat) (exponent : Int)
    : ofDecimal negative digits exponent ≠ .nan := by
  rw [ofDecimal]
  split
  · simp
  · split
    · simp
    · exact ofRatio_ne_nan _ _ _

end Binary64

-----------------------------------------------------------------------------------------
-- Decimals
-----------------------------------------------------------------------------------------

/-- A sign, or none. -/
inductive OptionalSign : List Char → Prop
  | missing : OptionalSign []
  | plus : OptionalSign ['+']
  | minus : OptionalSign ['-']

/-- The exponent part of a decimal, or none. -/
inductive ExponentPart : List Char → Prop
  | missing : ExponentPart []
  | scaled {mark sign digits} (marked : mark = 'e' ∨ mark = 'E') (signed : OptionalSign sign)
    (some : digits ≠ []) (all : AllDigits digits)
    : ExponentPart (mark :: (sign ++ digits))

/-- A point with the digits behind it, or none. -/
inductive FractionPart : (part digits : List Char) → Prop
  | missing : FractionPart [] []
  | pointed {digits} (all : AllDigits digits) : FractionPart ('.' :: digits) digits

/-- A decimal: an optional sign, digits with an optional point among them, an optional exponent. -/
inductive IsDecimal : List Char → Prop
  | intro {sign whole part fraction exponent} (signed : OptionalSign sign)
    (all : AllDigits whole) (fractional : FractionPart part fraction)
    (some : whole ++ fraction ≠ []) (scaled : ExponentPart exponent)
    : IsDecimal (sign ++ (whole ++ (part ++ exponent)))

/-- What is left of a text when its sign is taken. -/
theorem exists_sign (chars : List Char)
    : ∃ sign, OptionalSign sign ∧ chars = sign ++ (takeSign chars).2 := by
  unfold takeSign
  split
  · exact ⟨_, .minus, rfl⟩
  · exact ⟨_, .plus, rfl⟩
  · exact ⟨_, .missing, rfl⟩

/-- A sign is taken off in front of what starts with none. -/
theorem takeSign_append {sign rest : List Char} (signed : OptionalSign sign)
    (unsigned : ∀ c ∈ rest.head?, c ≠ '+' ∧ c ≠ '-')
    : (takeSign (sign ++ rest)).2 = rest := by
  cases signed with
  | plus => rfl
  | minus => rfl
  | missing =>
      rw [List.nil_append]
      unfold takeSign
      split
      · exact absurd rfl (unsigned '-' rfl).2
      · exact absurd rfl (unsigned '+' rfl).1
      · rfl

/-- Digits come without a sign. -/
theorem unsigned_of_digits {digits : List Char} (some : digits ≠ [])
    (all : AllDigits digits) (rest : List Char)
    : ∀ c ∈ (digits ++ rest).head?, c ≠ '+' ∧ c ≠ '-' := by
  obtain ⟨first, others, rfl⟩ := List.exists_cons_of_ne_nil some
  intro c isFirst
  obtain rfl : first = c := by simpa using isFirst
  have digit : first.isDigit = true := all first List.mem_cons_self
  constructor <;> rintro rfl <;> simp at digit

/-- A text is its leading digits and the rest. -/
theorem spanDigits_spec {chars digits rest : List Char} (spans : spanDigits chars = (digits, rest))
    : chars = digits ++ rest ∧ AllDigits digits := by
  obtain ⟨rfl, rfl⟩ := Prod.mk.inj spans
  exact ⟨List.takeWhile_append_dropWhile.symm, List.all_eq_true.mp List.all_takeWhile⟩

/-- An exponent is read exactly from an exponent part. -/
theorem readExponent_isSome_iff (tail : List Char)
    : (readExponent tail).isSome ↔ ExponentPart tail := by
  constructor
  · intro read
    cases tail with
    | nil => exact .missing
    | cons mark rest =>
        obtain ⟨sign, signed, whole⟩ := exists_sign rest
        rw [readExponent] at read
        split at read
        · next marked =>
            simp only [List.all_eq_true] at read
            split at read
            · next digits =>
                rw [whole]
                exact .scaled marked signed digits.1 digits.2
            · simp at read
        · simp at read
  · intro part
    cases part with
    | missing => rfl
    | @scaled mark sign digits marked signed some all =>
        have unsigned := unsigned_of_digits some all []
        rw [List.append_nil] at unsigned
        rw [readExponent, if_pos marked]
        simp only [takeSign_append signed unsigned]
        rw [if_pos ⟨some, List.all_eq_true.mpr all⟩]
        rfl

/-- No digit and no point starts an exponent part. -/
theorem ExponentPart.stops {tail : List Char} (scaled : ExponentPart tail)
    : StopsDigits tail ∧ tail.head? ≠ some '.' := by
  cases scaled with
  | missing => exact ⟨stopsDigits_nil, by simp⟩
  | scaled marked => rcases marked with rfl | rfl <;> exact ⟨stopsDigits_cons rfl, by simp⟩

/-- No digit starts a fraction part. -/
theorem FractionPart.stops {part fraction tail : List Char}
    (fractional : FractionPart part fraction) (stops : StopsDigits tail)
    : StopsDigits (part ++ tail) := by
  cases fractional with
  | missing => exact stops
  | pointed => exact stopsDigits_cons rfl

/-- The digits behind a point and what follows them; no digits if there is no point. -/
def splitFraction (rest : List Char) : List Char × List Char :=
  match rest with
  | '.' :: behind => spanDigits behind
  | _ => ([], rest)

/-- What is split off in front is a fraction part. -/
theorem splitFraction_spec {rest fraction tail : List Char}
    (splits : splitFraction rest = (fraction, tail))
    : ∃ part, rest = part ++ tail ∧ FractionPart part fraction := by
  unfold splitFraction at splits
  split at splits
  · obtain ⟨rfl, all⟩ := spanDigits_spec splits
    exact ⟨_, rfl, .pointed all⟩
  · obtain ⟨rfl, rfl⟩ := Prod.mk.inj splits
    exact ⟨[], rfl, .missing⟩

/-- A fraction part is split off in full. -/
theorem splitFraction_append {part fraction tail : List Char}
    (fractional : FractionPart part fraction) (stops : StopsDigits tail)
    (noPoint : tail.head? ≠ some '.')
    : splitFraction (part ++ tail) = (fraction, tail) := by
  cases fractional with
  | pointed all => exact spanDigits_append all stops
  | missing =>
      rw [List.nil_append]
      unfold splitFraction
      split
      · exact absurd rfl noPoint
      · rfl

/-- A decimal is read from its sign on, part by part. -/
theorem readDecimal_eq {chars whole rest fraction tail : List Char}
    (integral : spanDigits (takeSign chars).2 = (whole, rest))
    (fractional : splitFraction rest = (fraction, tail))
    : readDecimal chars
      = if whole ++ fraction = [] then none
        else (readExponent tail).map fun exponent =>
          .ofDecimal (takeSign chars).1 (digitsValue (whole ++ fraction))
            (exponent - fraction.length) := by
  let integer := spanDigits (takeSign chars).2
  let behind := splitFraction integer.2
  have parts
      : readDecimal chars
        = if integer.1 = [] ∧ behind.1 = [] then none
          else (readExponent behind.2).map fun exponent =>
            .ofDecimal (takeSign chars).1 (digitsValue (integer.1 ++ behind.1))
              (exponent - behind.1.length) := by
    rfl
  simp only [parts, behind, integer, integral, fractional, List.append_eq_nil_iff]

/-- A text is read as a decimal exactly if it is one. -/
theorem readDecimal_isSome_iff (chars : List Char)
    : (readDecimal chars).isSome ↔ IsDecimal chars := by
  constructor
  · intro read
    obtain ⟨sign, signed, isSigned⟩ := exists_sign chars
    cases integral : spanDigits (takeSign chars).2 with
    | mk whole rest =>
        cases splits : splitFraction rest with
        | mk fraction tail =>
            obtain ⟨unsigned, all⟩ := spanDigits_spec integral
            obtain ⟨part, pointed, fractional⟩ := splitFraction_spec splits
            rw [readDecimal_eq integral splits] at read
            split at read
            · simp at read
            · next some =>
                rw [Option.isSome_map, readExponent_isSome_iff] at read
                rw [isSigned, unsigned, pointed]
                exact .intro signed all fractional some read
  · rintro ⟨signed, all, fractional, some, scaled⟩
    next sign whole part fraction exponent =>
    have unsigned : ∀ c ∈ (whole ++ (part ++ exponent)).head?, c ≠ '+' ∧ c ≠ '-' := by
      by_cases none : whole = []
      · subst none
        cases fractional with
        | missing => exact absurd rfl some
        | pointed => simp
      · exact unsigned_of_digits none all _
    have integral : spanDigits (takeSign (sign ++ (whole ++ (part ++ exponent)))).2
        = (whole, part ++ exponent) := by
      rw [takeSign_append signed unsigned]
      exact spanDigits_append all (fractional.stops scaled.stops.1)
    have splits := splitFraction_append fractional scaled.stops.1 scaled.stops.2
    rw [readDecimal_eq integral splits, if_neg some, Option.isSome_map, readExponent_isSome_iff]
    exact scaled

/-- What is read from a decimal literal is a number. -/
theorem readDecimal_ne_nan (chars : List Char) : readDecimal chars ≠ some .nan := by
  cases integral : spanDigits (takeSign chars).2 with
  | mk whole rest =>
      cases splits : splitFraction rest with
      | mk fraction tail =>
          rw [readDecimal_eq integral splits]
          intro read
          split at read
          · simp at read
          · obtain ⟨exponent, -, isNan⟩ := Option.map_eq_some_iff.mp read
            exact Binary64.ofDecimal_ne_nan _ _ _ isNan

/-- A decimal consists of digits, signs, points and the marks of exponents. -/
theorem IsDecimal.forall_mem {chars : List Char} (isDecimal : IsDecimal chars)
    : ∀ c ∈ chars, c.isDigit = true ∨ c ∈ ['+', '-', '.', 'e', 'E'] := by
  have inSign {sign : List Char} (signed : OptionalSign sign) : ∀ c ∈ sign, c ∈ ['+', '-'] := by
    cases signed <;> simp
  obtain ⟨signed, all, fractional, -, scaled⟩ := isDecimal
  simp only [List.forall_mem_append]
  refine ⟨fun c member => ?_, fun c member => .inl (all c member), ?_, ?_⟩
  · exact .inr (List.mem_append_left ['.', 'e', 'E'] (inSign signed c member))
  · cases fractional with
    | missing => simp
    | pointed all => exact List.forall_mem_cons.mpr ⟨by simp, fun c member => .inl (all c member)⟩
  · cases scaled with
    | missing => simp
    | scaled marked signed some all =>
        refine List.forall_mem_cons.mpr ⟨by rcases marked with rfl | rfl <;> simp, ?_⟩
        refine List.forall_mem_append.mpr ⟨fun c member => ?_, fun c member => .inl (all c member)⟩
        exact .inr (List.mem_append_left ['.', 'e', 'E'] (inSign signed c member))

-----------------------------------------------------------------------------------------
-- Whole numbers in a radix
-----------------------------------------------------------------------------------------

/-- The radices of whole numbers with a mark. -/
inductive Radix
  | hexadecimal
  | octal
  | binary
deriving DecidableEq, Repr

namespace Radix

/-- The number of digits. -/
def base : Radix → Nat
  | .hexadecimal => 16
  | .octal => 8
  | .binary => 2

/-- The letters that tell the radix, behind a zero. -/
def marks : Radix → List Char
  | .hexadecimal => ['x', 'X']
  | .octal => ['o', 'O']
  | .binary => ['b', 'B']

/-- The digits in the order of their values, letters in lower case. -/
def digits : Radix → List Char
  | .hexadecimal => "0123456789abcdef".toList
  | .octal => "01234567".toList
  | .binary => "01".toList

/-- A character is a digit, in either case. -/
def IsDigit (radix : Radix) (c : Char) : Prop := c.toLower ∈ radix.digits

instance (radix : Radix) : DecidablePred radix.IsDigit := fun c =>
  inferInstanceAs (Decidable (c.toLower ∈ radix.digits))

/-- Digits of a radix, at least one. -/
structure Spells (radix : Radix) (chars : List Char) : Prop where
  some : chars ≠ []
  all : ∀ c ∈ chars, radix.IsDigit c

/-- The value of digits that stand behind digits of a known value. -/
def valueBehind (radix : Radix) (before : Nat) (chars : List Char) : Nat :=
  chars.foldl (fun value c => value * radix.base + radix.digits.idxOf c.toLower) before

/-- The value of digits. -/
def valueOf (radix : Radix) (chars : List Char) : Nat := radix.valueBehind 0 chars

theorem valueBehind_cons (radix : Radix) (before : Nat) (c : Char) (rest : List Char)
    : radix.valueBehind before (c :: rest)
      = radix.valueBehind (before * radix.base + radix.digits.idxOf c.toLower) rest :=
  rfl

/-- More digits do not lower a value. -/
theorem le_valueBehind (radix : Radix) (before : Nat) (chars : List Char)
    : before ≤ radix.valueBehind before chars := by
  induction chars generalizing before with
  | nil => exact Nat.le_refl before
  | cons c rest ih =>
      have positive : 1 ≤ radix.base := by cases radix <;> decide
      have grows : before ≤ before * radix.base := Nat.le_mul_of_pos_right before positive
      exact Nat.le_trans (Nat.le_trans grows (Nat.le_add_right ..)) (ih _)

/-- No digit lies beyond ASCII. -/
theorem toNat_lt_of_isDigit {radix : Radix} {c : Char} (digit : radix.IsDigit c)
    : c.toNat < 128 := by
  have plain : radix.digits.all (·.toNat < 128) = true := by cases radix <;> decide
  by_cases upper : c.val ≥ 'A'.val ∧ c.val ≤ 'Z'.val
  · exact Nat.lt_of_le_of_lt (UInt32.le_iff_toNat_le.mp upper.2) (by decide)
  · have same : c.toLower = c := dif_neg upper
    exact of_decide_eq_true (List.all_eq_true.mp plain c (same ▸ digit))

/-- All digits are ASCII. -/
theorem toNat_lt_of_digit? {base digit : Nat} {c : Char} (read : digit? base c = some digit)
    : c.toNat < 128 := by
  have below {last : Char} (ascii : last.toNat < 128) (upTo : c ≤ last) : c.toNat < 128 :=
    Nat.lt_of_le_of_lt (UInt32.le_iff_toNat_le.mp (Char.le_def.mp upTo)) ascii
  obtain ⟨value, -⟩ := Option.filter_eq_some_iff.mp read
  split at value
  · next decimal => exact below (by decide) decimal.2
  · split at value
    · next lower => exact below (by decide) lower.2
    · split at value
      · next upper => exact below (by decide) upper.2
      · simp at value

/-- The reader of digits knows the digits of a radix and their values; this is checked over ASCII,
where all of them lie.
-/
theorem digit?_base (radix : Radix) (c : Char)
    : digit? radix.base c
      = if c.toLower ∈ radix.digits then some (radix.digits.idxOf c.toLower) else none := by
  have checked
      : ∀ point < 128,
          digit? radix.base (Char.ofNat point)
          = if (Char.ofNat point).toLower ∈ radix.digits then
              some (radix.digits.idxOf (Char.ofNat point).toLower)
            else none := by
    cases radix <;> decide +kernel
  by_cases ascii : c.toNat < 128
  · have here := checked c.toNat ascii
    rwa [Char.ofNat_toNat] at here
  · have noDigit : ¬c.toLower ∈ radix.digits := fun digit => ascii (toNat_lt_of_isDigit digit)
    rw [if_neg noDigit, Option.eq_none_iff_forall_ne_some]
    exact fun digit read => ascii (toNat_lt_of_digit? read)

/-- Digits are read on behind a value exactly as long as this stays below 2^64. -/
theorem readDigits_eq_ok_iff (radix : Radix) {before : Nat} (small : before < wordCount)
    (chars : List Char) (value : Nat)
    : readDigits radix.base before chars = .ok value
      ↔ (∀ c ∈ chars, radix.IsDigit c)
        ∧ radix.valueBehind before chars = value
        ∧ value < wordCount := by
  induction chars generalizing before with
  | nil =>
      simp only [readDigits, Except.ok.injEq, valueBehind, List.foldl_nil, List.not_mem_nil,
        false_implies, implies_true, true_and]
      exact ⟨fun same => ⟨same, same ▸ small⟩, And.left⟩
  | cons c rest ih =>
      rw [readDigits, digit?_base, List.forall_mem_cons, valueBehind_cons]
      by_cases digit : c.toLower ∈ radix.digits
      · rw [if_pos digit]
        have isDigit : radix.IsDigit c := digit
        dsimp only
        split
        · next fits => rw [ih fits, and_iff_right isDigit]
        · next large =>
          have grown := radix.le_valueBehind
            (before * radix.base + radix.digits.idxOf c.toLower) rest
          simp only [reduceCtorEq, false_iff, not_and]
          omega
      · have noDigit : ¬radix.IsDigit c := digit
        simp [digit, noDigit]

theorem not_isDigit_plus (radix : Radix) : ¬radix.IsDigit '+' := by
  cases radix <;> decide

/-- A whole number is read from digits whose value is below 2^64, with a plus sign or without. -/
theorem readNatural_eq_ok_iff (radix : Radix) (chars : List Char) (value : Nat)
    : readNatural radix.base chars = .ok value
      ↔ ∃ digits,
          (chars = digits ∨ chars = '+' :: digits)
          ∧ radix.Spells digits
          ∧ radix.valueOf digits = value
          ∧ value < wordCount := by
  have noPlus := radix.not_isDigit_plus
  have nothing : 0 < wordCount := by decide
  have read (digits : List Char) := radix.readDigits_eq_ok_iff nothing digits value
  unfold readNatural
  split
  · simp only [reduceCtorEq, false_iff, not_exists, not_and]
    rintro digits (rfl | plus) spells
    · exact absurd rfl spells.some
    · cases plus
  · simp only [reduceCtorEq, false_iff, not_exists, not_and]
    rintro digits (rfl | plus) spells
    · exact absurd (spells.all '+' (by simp)) noPlus
    · exact absurd (List.cons.inj plus).2.symm spells.some
  · next digits some =>
    rw [read]
    constructor
    · rintro ⟨all, found⟩
      exact ⟨digits, .inr rfl, ⟨fun none => some none, all⟩, found⟩
    · rintro ⟨others, rfl | plus, spells, found⟩
      · exact absurd (spells.all '+' List.mem_cons_self) noPlus
      · obtain rfl := (List.cons.inj plus).2
        exact ⟨spells.all, found⟩
  · next some _ unsigned =>
    rw [read]
    constructor
    · rintro ⟨all, found⟩
      exact ⟨chars, .inl rfl, ⟨fun none => some none, all⟩, found⟩
    · rintro ⟨digits, rfl | plus, spells, found⟩
      · exact ⟨spells.all, found⟩
      · exact absurd plus (unsigned digits)

end Radix

end DesktopAutomation.Number
