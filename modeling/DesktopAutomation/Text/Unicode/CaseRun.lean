/-!
Letters whose other case lies at a fixed distance, told in runs. A run lists every letter of one
alphabet stretch at once: its first and last letter, the step between letters, and the image of
the first.
-/

namespace DesktopAutomation.Text.Unicode

/-- The letters `first`, `first + stride`, … up to `last`, which map to `image`,
`image + stride`, … in order.
-/
structure CaseRun where
  first : Nat
  last : Nat
  stride : Nat
  image : Nat

/-- A code point is in a run if it is one of the run's letters. -/
def CaseRun.holds (run : CaseRun) (point : Nat) : Bool :=
  run.first ≤ point && point ≤ run.last && (point - run.first) % run.stride == 0

/-- The letter at the same place of the image as `point` is in the run. -/
def CaseRun.map (run : CaseRun) (point : Nat) : Nat :=
  run.image + (point - run.first)

/-- The other case of a code point, itself where no run holds it. -/
def mapCase (runs : List CaseRun) (point : Nat) : Nat :=
  match runs.find? (·.holds point) with
  | some run => run.map point
  | none => point

/-- A code point lies in one of the closed ranges of a table. -/
def inRanges (ranges : List (Nat × Nat)) (point : Nat) : Bool :=
  ranges.any fun range => range.1 ≤ point && point ≤ range.2

end DesktopAutomation.Text.Unicode
