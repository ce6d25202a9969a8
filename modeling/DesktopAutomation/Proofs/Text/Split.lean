import DesktopAutomation.Text.Split
import Mathlib.Data.List.Infix
import Mathlib.Order.Bounds.Defs

/-! The pieces of texts. A text is cut at the leftmost occurrence of a divider behind the cut
before, also where occurrences overlap. So the divider joins the pieces to the text again, and no
piece holds it.
-/

namespace DesktopAutomation.Text

-----------------------------------------------------------------------------------------
-- Occurrences
-----------------------------------------------------------------------------------------

/-- A divider stands in a text behind a number of characters. -/
def StandsAt (divider text : List Char) (place : Nat) : Prop := divider <+: text.drop place

/-- A text that holds the divider has room for it behind the place where it stands. -/
theorem exists_standsAt {divider text : List Char} (holds : divider <:+: text)
    : ∃ place, StandsAt divider text place ∧ place + divider.length ≤ text.length := by
  obtain ⟨before, behind, rfl⟩ := holds
  refine ⟨before.length, ?_, by simp only [List.length_append]; omega⟩
  rw [StandsAt, List.append_assoc, List.drop_left]
  exact List.prefix_append divider behind

/-- An occurrence stays where it is when more is written behind the text. -/
theorem StandsAt.append {divider text : List Char} {place : Nat}
    (stands : StandsAt divider text place) (behind : List Char)
    : StandsAt divider (text ++ behind) place := by
  rw [StandsAt, List.drop_append]
  exact stands.trans (List.prefix_append _ _)

theorem standsAt_behind (divider before text : List Char) (place : Nat)
    : StandsAt divider (before ++ text) (before.length + place)
      ↔ StandsAt divider text place := by
  rw [StandsAt, StandsAt, List.drop_append, Nat.add_sub_cancel_left,
    List.drop_eq_nil_of_le (Nat.le_add_right _ _), List.nil_append]

-----------------------------------------------------------------------------------------
-- Cuts
-----------------------------------------------------------------------------------------

/-- A text that does not hold the divider is one piece. Any other text is cut where the divider
stands first, and what follows the divider is cut in turn.
-/
inductive Cuts (divider : List Char) : List Char → List (List Char) → Prop
  | whole {text : List Char} (absent : ∀ place, ¬StandsAt divider text place)
    : Cuts divider text [text]
  | first {piece rest : List Char} {pieces : List (List Char)}
    (leftmost : ∀ place, StandsAt divider (piece ++ divider ++ rest) place → piece.length ≤ place)
    (further : Cuts divider rest pieces)
    : Cuts divider (piece ++ divider ++ rest) (piece :: pieces)

/-- Where the next piece begins behind some pieces with the divider behind each. -/
def beginBehind (divider : List Char) (before : List (List Char)) : Nat :=
  (before.flatMap (· ++ divider)).length

/-- The pieces between a divider are joined to the text by it, and none of them holds it. Each piece
but the last ends where the divider stands first behind the beginning of the piece; behind the
beginning of the last piece it stands nowhere.
-/
structure Separates (divider text : List Char) (pieces : List (List Char)) : Prop where
  nonempty : pieces ≠ []
  joined : divider.intercalate pieces = text
  apart : ∀ piece ∈ pieces, ¬divider <:+: piece
  leftmost
    : ∀ before piece next behind,
        pieces = before ++ piece :: next :: behind
        → IsLeast {place | beginBehind divider before ≤ place ∧ StandsAt divider text place}
            (beginBehind divider before + piece.length)
  ended
    : ∀ before piece,
        pieces = before ++ [piece]
        → ∀ place, beginBehind divider before ≤ place → ¬StandsAt divider text place

theorem beginBehind_cons (divider piece : List Char) (before : List (List Char))
    : beginBehind divider (piece :: before)
      = (piece ++ divider).length + beginBehind divider before := by
  rw [beginBehind, List.flatMap_cons, List.length_append, ← beginBehind]

/-- A text that does not hold the divider is one piece: a second one would stand behind it. -/
theorem Separates.eq_singleton {divider text : List Char} {pieces : List (List Char)}
    (separates : Separates divider text pieces) (absent : ¬divider <:+: text)
    : pieces = [text] := by
  obtain ⟨nonempty, joined, -, leftmost, -⟩ := separates
  match pieces with
  | [] => exact absurd rfl nonempty
  | [piece] => rw [← joined, List.intercalate_singleton]
  | piece :: next :: behind =>
      have stands := (leftmost [] piece next behind rfl).1.2
      exact absurd (stands.isInfix.trans (List.drop_suffix _ _).isInfix) absent

namespace Cuts
variable {divider text : List Char} {pieces : List (List Char)}

theorem ne_nil (cuts : Cuts divider text pieces) : pieces ≠ [] := by
  cases cuts <;> exact List.cons_ne_nil _ _

theorem joined (cuts : Cuts divider text pieces) : divider.intercalate pieces = text := by
  induction cuts with
  | whole absent => exact List.intercalate_singleton
  | first leftmost further ih => rw [List.intercalate_cons_of_ne_nil further.ne_nil, ih]

/-- An occurrence in a piece would stand before the cut behind it. -/
theorem apart (isSome : divider ≠ []) (cuts : Cuts divider text pieces)
    : ∀ piece ∈ pieces, ¬divider <:+: piece := by
  induction cuts with
  | whole absent =>
      intro piece isPiece holds
      obtain rfl := List.mem_singleton.mp isPiece
      obtain ⟨place, stands, -⟩ := exists_standsAt holds
      exact absent place stands
  | first leftmost further ih =>
      refine List.forall_mem_cons.mpr ⟨fun holds => ?_, ih⟩
      obtain ⟨place, stands, inside⟩ := exists_standsAt holds
      have notBefore := leftmost place (by
        rw [List.append_assoc]
        exact stands.append _)
      have long := List.length_pos_of_ne_nil isSome
      omega

/-- By induction on the cuts: what holds behind the first cut holds in the whole text, further on by
the first piece and the divider.
-/
theorem leftmost (cuts : Cuts divider text pieces) {before behind : List (List Char)}
    {piece next : List Char} (parts : pieces = before ++ piece :: next :: behind)
    : IsLeast {place | beginBehind divider before ≤ place ∧ StandsAt divider text place}
        (beginBehind divider before + piece.length) := by
  induction cuts generalizing before with
  | whole absent =>
      have lengths := congrArg List.length parts
      simp only [List.length_append, List.length_cons, List.length_nil] at lengths
      omega
  | @first opening rest pieces leftmost further ih =>
      cases before with
      | nil =>
          obtain ⟨rfl, rfl⟩ := List.cons.inj parts
          have stands := (standsAt_behind divider opening (divider ++ rest) 0).mpr
            (List.prefix_append divider rest)
          rw [← List.append_assoc] at stands
          refine ⟨⟨Nat.zero_le _, ?_⟩, fun place member => ?_⟩
          · rwa [beginBehind, List.flatMap_nil, List.length_nil, Nat.zero_add]
          · rw [beginBehind, List.flatMap_nil, List.length_nil, Nat.zero_add]
            exact leftmost place member.2
      | cons first before =>
          obtain ⟨rfl, others⟩ := List.cons.inj parts
          obtain ⟨⟨-, stands⟩, least⟩ := ih others
          rw [beginBehind_cons, Nat.add_assoc]
          refine ⟨⟨Nat.add_le_add_left (Nat.le_add_right _ _) _, ?_⟩, ?_⟩
          · rwa [standsAt_behind]
          · rintro place ⟨isBehind, standsThere⟩
            obtain ⟨further, rfl⟩ := Nat.exists_eq_add_of_le
              (Nat.le_trans (Nat.le_add_right _ _) isBehind)
            rw [standsAt_behind] at standsThere
            exact Nat.add_le_add_left
              (least ⟨Nat.le_of_add_le_add_left isBehind, standsThere⟩) _

theorem ended (cuts : Cuts divider text pieces) {before : List (List Char)} {piece : List Char}
    (parts : pieces = before ++ [piece]) {place : Nat}
    (isBehind : beginBehind divider before ≤ place)
    : ¬StandsAt divider text place := by
  induction cuts generalizing before place with
  | whole absent => exact absent place
  | first leftmost further ih =>
      cases before with
      | nil => exact absurd (List.cons.inj parts).2 further.ne_nil
      | cons first before =>
          obtain ⟨rfl, others⟩ := List.cons.inj parts
          rw [beginBehind_cons] at isBehind
          obtain ⟨further, rfl⟩ := Nat.exists_eq_add_of_le
            (Nat.le_trans (Nat.le_add_right _ _) isBehind)
          rw [standsAt_behind]
          exact ih others (Nat.le_of_add_le_add_left isBehind)

theorem separates (isSome : divider ≠ []) (cuts : Cuts divider text pieces)
    : Separates divider text pieces where
  nonempty := cuts.ne_nil
  joined := cuts.joined
  apart := cuts.apart isSome
  leftmost _ _ _ _ parts := cuts.leftmost parts
  ended _ _ parts _ isBehind := cuts.ended parts isBehind

end Cuts

-----------------------------------------------------------------------------------------
-- Splitting
-----------------------------------------------------------------------------------------

/-- The rest of an occurrence is passed over. -/
theorem cutBehind_skip (divider : List Char) (skip : Nat) (piece text : List Char)
    : cutBehind divider skip piece text = cutBehind divider 0 piece (text.drop skip) := by
  induction text generalizing skip with
  | nil => rw [List.drop_nil, cutBehind, cutBehind]
  | cons c rest ih =>
      cases skip with
      | zero => rfl
      | succ skip => rw [cutBehind, ih, List.drop_succ_cons]

/-- Cutting from within a piece: the divider stands nowhere before the characters that are still to
come. By induction on these, since the divider that is passed over is not empty.
-/
theorem cutBehind_cuts {divider : List Char} (isSome : divider ≠ []) (piece text : List Char)
    (passed : ∀ place, StandsAt divider (piece.reverse ++ text) place → piece.length ≤ place)
    : Cuts divider (piece.reverse ++ text) (cutBehind divider 0 piece text) := by
  match text with
  | [] =>
      rw [cutBehind, List.append_nil]
      refine .whole fun place stands => ?_
      rw [List.append_nil] at passed
      have inside := passed place stands
      rw [StandsAt, List.drop_eq_nil_of_le (by rwa [List.length_reverse])] at stands
      exact isSome (List.prefix_nil.mp stands)
  | c :: rest =>
      rw [cutBehind]
      split
      · next isHere =>
          obtain ⟨behind, parts⟩ := List.isPrefixOf_iff_prefix.mp isHere
          have isRest : rest.drop (divider.length - 1) = behind := by
            have whole := congrArg (List.drop divider.length) parts
            rw [List.drop_left] at whole
            obtain ⟨first, others, rfl⟩ := List.exists_cons_of_ne_nil isSome
            exact whole.symm
          have shorter : behind.length < (c :: rest).length := by
            have long := List.length_pos_of_ne_nil isSome
            rw [← parts, List.length_append]
            omega
          rw [← parts, ← List.append_assoc] at passed ⊢
          rw [cutBehind_skip, isRest]
          refine .first (fun place stands => ?_) ?_
          · rw [List.length_reverse]
            exact passed place stands
          · exact cutBehind_cuts isSome [] behind fun place _ => Nat.zero_le place
      · next notHere =>
          have shifted : piece.reverse ++ c :: rest = (c :: piece).reverse ++ rest := by simp
          rw [shifted] at passed ⊢
          refine cutBehind_cuts isSome (c :: piece) rest fun place stands => ?_
          have atLeast := passed place stands
          refine Nat.lt_of_le_of_ne atLeast ?_
          rintro rfl
          rw [← shifted, StandsAt, ← List.length_reverse, List.drop_left] at stands
          exact notHere (List.isPrefixOf_iff_prefix.mpr stands)
termination_by text.length

/-- The pieces of a text are those that its divider separates. -/
theorem split_separates {divider : String} (isSome : divider ≠ "") (text : String)
    : Separates divider.toList text.toList ((split text divider).map String.toList) := by
  have isSome : divider.toList ≠ [] := fun empty => isSome (String.toList_eq_nil_iff.mp empty)
  have cuts := cutBehind_cuts isSome [] text.toList fun place _ => Nat.zero_le place
  rw [split, if_neg isSome, List.map_map]
  simpa [Function.comp_def] using cuts.separates isSome

/-- Without a divider the pieces of a text are its characters. -/
theorem split_characters (text : String)
    : (split text "").map String.toList = text.toList.map fun c => [c] := by
  rw [split, if_pos String.toList_empty, List.map_map]
  exact List.map_congr_left fun c _ => String.toList_ofList

end DesktopAutomation.Text
