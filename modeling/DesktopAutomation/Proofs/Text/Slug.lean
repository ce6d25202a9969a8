import DesktopAutomation.Proofs.Text.Trimming
import DesktopAutomation.Text.Slug

/-! What slugs are made of. A slug writes every character that it keeps in lower case ASCII, and its
two ends are letters or digits. A text that is made like this is its own slug.
-/

namespace DesktopAutomation.Text
open Unicode

/-- Lower case letters and digits of ASCII. -/
def isWordChar (c : Char) : Bool := c.isLower || c.isDigit

/-- The characters of slugs. -/
def isSlugChar (c : Char) : Bool := isWordChar c || c == '-' || c == '.' || c == '_'

/-- What slugs have in common. -/
structure IsSlug (slug : List Char) : Prop where
  chars : ∀ c ∈ slug, isSlugChar c = true
  start : ∀ first, slug.head? = some first → isWordChar first = true
  ending : ∀ last, slug.getLast? = some last → isWordChar last = true

-----------------------------------------------------------------------------------------
-- Characters
-----------------------------------------------------------------------------------------

/-- The characters that a slug keeps in some form. -/
def isKept (c : Char) : Bool := c.isAlphanum || isSeparator c

theorem toNat_lt_of_isAlphanum {c : Char} (kept : c.isAlphanum = true) : c.toNat < 128 := by
  have kinds : ((c.isUpper || c.isLower) || c.isDigit) = true := kept
  rw [Bool.or_eq_true, Bool.or_eq_true] at kinds
  rcases kinds with (upper | lower) | digit
  · have below : c.val ≤ 'Z'.val := (of_decide_eq_true upper).2
    exact Nat.lt_of_le_of_lt (UInt32.le_iff_toNat_le.mp below) (by decide)
  · have below : c.val ≤ 'z'.val := of_decide_eq_true (Bool.and_eq_true_iff.mp lower).2
    exact Nat.lt_of_le_of_lt (UInt32.le_iff_toNat_le.mp below) (by decide)
  · exact Nat.lt_of_le_of_lt (Char.isDigit_iff_toNat.mp digit).2 (by decide)

theorem isAlphanum_of_isWordChar {c : Char} (isWord : isWordChar c = true)
    : c.isAlphanum = true := by
  have kinds : c.isAlphanum = ((c.isUpper || c.isLower) || c.isDigit) := rfl
  rw [kinds, Bool.or_assoc, Bool.or_eq_true]
  exact .inr isWord

theorem toNat_lt_of_isSlugChar {c : Char} (isSlug : isSlugChar c = true) : c.toNat < 128 := by
  simp only [isSlugChar, Bool.or_eq_true, beq_iff_eq] at isSlug
  rcases isSlug with ((isWord | rfl) | rfl) | rfl
  · exact toNat_lt_of_isAlphanum (isAlphanum_of_isWordChar isWord)
  all_goals decide

/-- Letters and digits stay letters and digits; this is checked over ASCII. -/
theorem isWordChar_slugChar {c : Char} (kept : c.isAlphanum = true)
    : isWordChar (slugChar c) = true := by
  have checked
      : ∀ point < 128,
          (Char.ofNat point).isAlphanum = true
          → isWordChar (slugChar (Char.ofNat point)) = true := by
    decide +kernel
  have here := checked c.toNat (toNat_lt_of_isAlphanum kept)
  rw [Char.ofNat_toNat] at here
  exact here kept

theorem isSlugChar_slugChar {c : Char} (kept : isKept c = true)
    : isSlugChar (slugChar c) = true := by
  rcases Bool.or_eq_true .. ▸ kept with alphanumeric | separator
  · simp only [isSlugChar, isWordChar_slugChar alphanumeric, Bool.true_or]
  · have listed : c ∈ [' ', ',', '-', '.', '_'] := of_decide_eq_true separator
    simp only [List.mem_cons, List.not_mem_nil, or_false] at listed
    rcases listed with rfl | rfl | rfl | rfl | rfl <;> decide

/-- The characters of slugs are kept as they are, and separate no words if they are letters or
digits; this is checked over ASCII.
-/
theorem slugChar_settled {c : Char} (isSlug : isSlugChar c = true)
    : isKept c = true ∧ slugChar c = c ∧ (isWordChar c = true → isSeparator c = false) := by
  have checked
      : ∀ point < 128,
          let c := Char.ofNat point
          isSlugChar c = true
          → isKept c = true
            ∧ slugChar c = c
            ∧ (isWordChar c = true → isSeparator c = false) := by
    decide +kernel
  have here := checked c.toNat (toNat_lt_of_isSlugChar isSlug)
  rw [Char.ofNat_toNat] at here
  exact here isSlug

-----------------------------------------------------------------------------------------
-- Slugs
-----------------------------------------------------------------------------------------

/-- The slug of a text that is given by its canonical decomposition. -/
def slugOfDecomposed (decomposed : List Char) : String :=
  String.ofList ((trimEnds isSeparator (decomposed.filter isKept)).map slugChar)

/-- The slug of a text, with a function that decomposes texts. -/
def slugBy (decompose : List Char → List Char) (text : String) : String :=
  slugOfDecomposed (decompose text.toList)

/-- Texts of ASCII are decomposed to themselves. -/
def LeavesAscii (decompose : List Char → List Char) : Prop :=
  ∀ chars, (∀ c ∈ chars, c.toNat < 128) → decompose chars = chars

/-- Of the canonical decomposition of a text, a slug needs the characters of ASCII. -/
theorem slugify_eq_slugBy : slugify = slugBy (List.filterMap asciiBase?) := by
  funext text
  rw [slugBy, slugOfDecomposed, List.filter_filterMap]
  rfl

/-- A decomposition character by character leaves ASCII if it leaves each character of it. -/
theorem leavesAscii_flatMap {decomposition : Char → List Char}
    (leaves : ∀ c, c.toNat < 128 → decomposition c = [c])
    : LeavesAscii (List.flatMap decomposition) := by
  intro chars ascii
  have alone : chars.flatMap decomposition = chars.flatMap fun c => [c] :=
    List.flatMap_congr fun c member => leaves c (ascii c member)
  rw [alone, List.flatMap_singleton']

theorem leavesAscii_asciiBase? : LeavesAscii (List.filterMap asciiBase?) := by
  have isFlat : List.filterMap asciiBase? = List.flatMap fun c => (asciiBase? c).toList :=
    funext fun chars => List.filterMap_eq_flatMap_toList ..
  rw [isFlat]
  exact leavesAscii_flatMap fun c ascii => congrArg Option.toList (if_pos ascii)

theorem isSlug_slugOfDecomposed (decomposed : List Char)
    : IsSlug (slugOfDecomposed decomposed).toList := by
  have kept {c : Char} (member : c ∈ trimEnds isSeparator (decomposed.filter isKept))
      : isKept c = true :=
    (List.mem_filter.mp (mem_of_mem_trimEnds member)).2
  have isWord {c : Char} (keeps : isKept c = true) (apart : isSeparator c = false)
      : isWordChar (slugChar c) = true := by
    rw [isKept, apart, Bool.or_false] at keeps
    exact isWordChar_slugChar keeps
  rw [slugOfDecomposed, String.toList_ofList]
  constructor
  · exact List.forall_mem_map.mpr fun c member => isSlugChar_slugChar (kept member)
  · intro first starts
    rw [List.head?_map, Option.map_eq_some_iff] at starts
    obtain ⟨c, isFirst, rfl⟩ := starts
    exact isWord (kept (List.mem_of_head? isFirst)) (head?_trimEnds isFirst)
  · intro last ends
    rw [List.getLast?_map, Option.map_eq_some_iff] at ends
    obtain ⟨c, isLast, rfl⟩ := ends
    exact isWord (kept (List.mem_of_getLast? isLast)) (getLast?_trimEnd isLast)

theorem isSlug_slugify (text : String) : IsSlug (slugify text).toList :=
  slugify_eq_slugBy ▸ isSlug_slugOfDecomposed _

/-- What has the form of a slug is left as it is. -/
theorem slugOfDecomposed_of_isSlug {slug : String} (isSlug : IsSlug slug.toList)
    : slugOfDecomposed slug.toList = slug := by
  have kept : slug.toList.filter isKept = slug.toList :=
    List.filter_eq_self.mpr fun c member => (slugChar_settled (isSlug.chars c member)).1
  have trimmed : trimEnds isSeparator slug.toList = slug.toList := by
    refine trimEnds_eq_self (fun first starts => ?_) fun last ends => ?_
    · have member := List.mem_of_head? starts
      exact (slugChar_settled (isSlug.chars first member)).2.2 (isSlug.start first starts)
    · have member := List.mem_of_getLast? ends
      exact (slugChar_settled (isSlug.chars last member)).2.2 (isSlug.ending last ends)
  have written : slug.toList.map slugChar = slug.toList.map id :=
    List.map_congr_left fun c member => (slugChar_settled (isSlug.chars c member)).2.1
  rw [slugOfDecomposed, kept, trimmed, written, List.map_id, String.ofList_toList]

/-- A slug is its own slug. -/
theorem slugBy_slugBy {decompose : List Char → List Char} (leaves : LeavesAscii decompose)
    (text : String)
    : slugBy decompose (slugBy decompose text) = slugBy decompose text := by
  have isSlug : IsSlug (slugBy decompose text).toList := isSlug_slugOfDecomposed _
  have same := leaves _ fun c member => toNat_lt_of_isSlugChar (isSlug.chars c member)
  rw [slugBy, same, slugOfDecomposed_of_isSlug isSlug]

end DesktopAutomation.Text
