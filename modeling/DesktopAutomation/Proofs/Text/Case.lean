import DesktopAutomation.Text.Case

/-! Lower case texts stay as they are when they are put in lower case again.
In the table no image of a letter is itself a letter with an image; this is checked run by run.
-/

namespace DesktopAutomation.Text
open Unicode

/-- The last letter of the image of a run. -/
def lastImage (run : CaseRun) : Nat := run.image + (run.last - run.first)

/-- No letter of the image of a run is in another run: the one ends before the other starts, or both
skip every second letter and run side by side.
-/
def imageApart (run other : CaseRun) : Bool :=
  Nat.blt (lastImage run) other.first || Nat.blt other.last run.image
    || ((Nat.beq (run.stride % 2) 0 || Nat.beq run.first run.last)
      && Nat.beq (other.stride % 2) 0 && Nat.beq ((run.image + other.first) % 2) 1)

/-- The image of a run consists of characters. -/
def imageValid (run : CaseRun) : Bool :=
  Nat.blt (lastImage run) 0xd800 || (Nat.ble 0xe000 run.image && Nat.blt (lastImage run) 0x110000)

/-- The one letter with a lower case of two characters, as a run. -/
def dottedCapital : CaseRun := ⟨0x130, 0x130, 2, 0x130⟩

/-- A distance in whole even strides is even. -/
theorem even_of_mod_stride {distance stride : Nat} (even : stride % 2 = 0)
    (reached : distance % stride = 0)
    : distance % 2 = 0 :=
  Nat.mod_eq_zero_of_dvd
    (Nat.dvd_trans (Nat.dvd_of_mod_eq_zero even) (Nat.dvd_of_mod_eq_zero reached))

/-- What a run maps to lies in no run that its image is apart from. -/
theorem holds_map_of_imageApart {run other : CaseRun} {point : Nat}
    (held : run.holds point = true) (apart : imageApart run other = true)
    : other.holds (run.map point) = false := by
  rw [Bool.eq_false_iff]
  intro heldAgain
  simp only [CaseRun.holds, Bool.and_eq_true, decide_eq_true_eq, beq_iff_eq] at held heldAgain
  simp only [CaseRun.map] at heldAgain
  obtain ⟨⟨above, below⟩, reached⟩ := held
  obtain ⟨⟨aboveAgain, belowAgain⟩, reachedAgain⟩ := heldAgain
  simp only [imageApart, lastImage, Bool.or_eq_true, Bool.and_eq_true, Nat.blt_eq, Nat.beq_eq]
    at apart
  rcases apart with (before | behind) | ⟨⟨skips, evenStride⟩, odd⟩
  · omega
  · omega
  · have even : (point - run.first) % 2 = 0 := by
      rcases skips with even | single
      · exact even_of_mod_stride even reached
      · omega
    have evenAgain := even_of_mod_stride evenStride reachedAgain
    omega

/-- No run of the table maps into another one, which is checked run by run. -/
theorem lowerRuns_apart
    : (lowerRuns.all fun run => lowerRuns.all fun other => imageApart run other) = true := by
  decide +kernel

/-- No run maps to the dotted capital, and all map to characters. -/
theorem lowerRuns_sound
    : (lowerRuns.all fun run => imageApart run dottedCapital && imageValid run) = true := by
  decide +kernel

/-- A character that is its own lower case, whatever stands around it. -/
def Settled (c : Char) : Prop := lowerChar c = [c] ∧ c ≠ '\u03a3'

/-- A character that the table leaves as it is stays as it is, but for the two with rules of their
own.
-/
theorem settled_of_mapCase {c : Char} (undotted : c ≠ '\u0130') (capital : c ≠ '\u03a3')
    (same : mapCase lowerRuns c.toNat = c.toNat)
    : Settled c := by
  refine ⟨?_, capital⟩
  rw [lowerChar, if_neg undotted, same, Char.ofNat_toNat]

/-- A character that lies in no run is mapped to itself. -/
theorem mapCase_of_absent {point : Nat} (absent : ∀ run ∈ lowerRuns, run.holds point = false)
    : mapCase lowerRuns point = point := by
  have none : lowerRuns.find? (·.holds point) = none :=
    List.find?_eq_none.mpr fun run member => by simp [absent run member]
  rw [mapCase, none]

/-- The image of a letter is settled. -/
theorem settled_of_image {run : CaseRun} {point : Nat} (member : run ∈ lowerRuns)
    (held : run.holds point = true)
    : Settled (Char.ofNat (run.map point)) := by
  have apart (other : CaseRun) (memberAgain : other ∈ lowerRuns) : imageApart run other = true :=
    List.all_eq_true.mp (List.all_eq_true.mp lowerRuns_apart run member) other memberAgain
  have absent (other : CaseRun) (memberAgain : other ∈ lowerRuns) :=
    holds_map_of_imageApart held (apart other memberAgain)
  have sound := List.all_eq_true.mp lowerRuns_sound run member
  rw [Bool.and_eq_true] at sound
  obtain ⟨undotted, valid⟩ := sound
  have place : (Char.ofNat (run.map point)).toNat = run.map point := by
    have inside : run.map point ≤ lastImage run := by
      simp only [CaseRun.holds, Bool.and_eq_true, decide_eq_true_eq] at held
      exact Nat.add_le_add_left (Nat.sub_le_sub_right held.1.2 _) _
    have atLeast : run.image ≤ run.map point := Nat.le_add_right _ _
    simp only [imageValid, Bool.or_eq_true, Bool.and_eq_true, Nat.blt_eq, Nat.ble_eq] at valid
    have scalar : (run.map point).isValidChar := by
      simp only [Nat.isValidChar]
      omega
    rw [Char.ofNat, dif_pos scalar]
    rfl
  apply settled_of_mapCase
  · intro dotted
    have never := holds_map_of_imageApart held undotted
    rw [← place, dotted] at never
    exact absurd never (by decide)
  · intro capital
    have sigma : (lowerRuns.any (·.holds 0x3a3)) = true := by decide +kernel
    obtain ⟨other, memberAgain, holdsSigma⟩ := List.any_eq_true.mp sigma
    have never := absent other memberAgain
    rw [← place, capital] at never
    exact absurd (never.symm.trans holdsSigma) Bool.false_ne_true
  · rw [place, mapCase_of_absent absent]

/-- Every character of a lower case text is settled. -/
theorem settled_of_mem_lowerChar {c d : Char} (capital : c ≠ '\u03a3') (member : d ∈ lowerChar c)
    : Settled d := by
  rw [lowerChar] at member
  split at member
  · have either : d = 'i' ∨ d = '\u0307' := by simpa using member
    rcases either with rfl | rfl
    · exact settled_of_mapCase (by decide) (by decide) (by decide +kernel)
    · exact settled_of_mapCase (by decide) (by decide) (by decide +kernel)
  · next undotted =>
      obtain rfl := List.mem_singleton.mp member
      rw [mapCase]
      split
      · next run found =>
          exact settled_of_image (List.mem_of_find?_eq_some found)
            (by simpa using List.find?_some found)
      · next absent =>
          rw [Char.ofNat_toNat]
          apply settled_of_mapCase undotted capital
          rw [mapCase, absent]

/-- Both small forms of sigma stay as they are. -/
theorem settled_lowerSigma (before after : List Char) : Settled (lowerSigma before after) := by
  rw [lowerSigma]
  split
  · exact settled_of_mapCase (by decide) (by decide) (by decide +kernel)
  · exact settled_of_mapCase (by decide) (by decide) (by decide +kernel)

/-- All characters of a text in lower case stay as they are, by induction over the text. -/
theorem settled_lowerBehind (before chars : List Char)
    : ∀ d ∈ lowerBehind before chars, Settled d := by
  induction chars generalizing before with
  | nil => simp [lowerBehind]
  | cons c rest ih =>
      rw [lowerBehind]
      refine List.forall_mem_append.mpr ⟨?_, ih _⟩
      split
      · simpa using settled_lowerSigma before rest
      · next capital => exact fun d => settled_of_mem_lowerChar capital

/-- A text of characters that stay as they are is in lower case, by induction over it. -/
theorem lowerBehind_of_settled (before : List Char) {chars : List Char}
    (settled : ∀ c ∈ chars, Settled c)
    : lowerBehind before chars = chars := by
  induction chars generalizing before with
  | nil => rfl
  | cons c rest ih =>
      obtain ⟨⟨same, capital⟩, settled⟩ := List.forall_mem_cons.mp settled
      rw [lowerBehind, if_neg capital, same, ih _ settled, List.singleton_append]

/-- Lower case is reached in one go. -/
theorem lowercase_lowercase (text : String) : lowercase (lowercase text) = lowercase text := by
  rw [lowercase, lowercase, String.toList_ofList,
    lowerBehind_of_settled [] (settled_lowerBehind [] text.toList)]

end DesktopAutomation.Text
