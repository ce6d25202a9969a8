import DesktopAutomation.Text.Blank
import Mathlib.Data.List.DropRight

/-! Trimming. What is left of a list is a stretch of it whose ends are kept.
-/

namespace DesktopAutomation.Text

theorem trimEnd_start (drop : Char → Bool) (chars : List Char) : trimEnd drop chars <+: chars := by
  rw [← List.reverse_suffix, trimEnd, List.reverse_reverse]
  exact List.dropWhile_suffix drop

theorem mem_of_mem_trimEnds {drop : Char → Bool} {chars : List Char} {c : Char}
    (member : c ∈ trimEnds drop chars)
    : c ∈ chars :=
  (List.dropWhile_suffix drop).mem ((trimEnd_start drop _).mem member)

/-- A trimmed list starts with a character that is kept. -/
theorem head?_trimEnds {drop : Char → Bool} {chars : List Char} {first : Char}
    (starts : (trimEnds drop chars).head? = some first)
    : drop first = false := by
  obtain ⟨behind, whole⟩ := trimEnd_start drop (chars.dropWhile drop)
  have startsWhole : (chars.dropWhile drop).head? = some first := by
    rw [← whole, List.head?_append]
    exact congrArg (Option.or · _) starts
  have kept := List.head?_dropWhile_not drop chars
  rw [startsWhole] at kept
  exact kept

theorem trimEnd_eq_rdropWhile (drop : Char → Bool) (chars : List Char)
    : trimEnd drop chars = chars.rdropWhile drop :=
  rfl

/-- A list that is trimmed at its end ends with a character that is kept. -/
theorem getLast?_trimEnd {drop : Char → Bool} {chars : List Char} {last : Char}
    (ends : (trimEnd drop chars).getLast? = some last)
    : drop last = false := by
  rw [trimEnd_eq_rdropWhile] at ends
  have isSome : chars.rdropWhile drop ≠ [] := fun isNil => by simp [isNil] at ends
  rw [List.getLast?_eq_some_getLast isSome, Option.some.injEq] at ends
  exact Bool.eq_false_iff.mpr (ends ▸ List.rdropWhile_last_not drop chars isSome)

/-- A character is dropped from before the end if it may be and all behind it are. -/
theorem trimEnd_cons (drop : Char → Bool) (c : Char) (rest : List Char)
    : trimEnd drop (c :: rest)
      = if trimEnd drop rest = [] ∧ drop c = true then [] else c :: trimEnd drop rest := by
  simp only [trimEnd, List.reverse_cons, List.dropWhile_append, List.reverse_eq_nil_iff]
  cases rest.reverse.dropWhile drop with
  | nil => cases dropped : drop c <;> simp [dropped]
  | cons last before => simp

theorem trimEnd_eq_self {drop : Char → Bool} {chars : List Char}
    (ends : ∀ last, chars.getLast? = some last → drop last = false)
    : trimEnd drop chars = chars := by
  rw [trimEnd_eq_rdropWhile, List.rdropWhile_eq_self_iff]
  exact fun isSome => Bool.eq_false_iff.mp (ends _ (List.getLast?_eq_some_getLast isSome))

/-- A list whose two ends are kept is left as it is. -/
theorem trimEnds_eq_self {drop : Char → Bool} {chars : List Char}
    (starts : ∀ first, chars.head? = some first → drop first = false)
    (ends : ∀ last, chars.getLast? = some last → drop last = false)
    : trimEnds drop chars = chars := by
  have whole : chars.dropWhile drop = chars := by
    cases chars with
    | nil => rfl
    | cons first rest => rw [List.dropWhile_cons, starts first rfl, if_neg Bool.false_ne_true]
  rw [trimEnds, whole, trimEnd_eq_self ends]

end DesktopAutomation.Text
