import DesktopAutomation.Step.Basic

/-!
Positions of steps. The path to a step tells, level by level, its place among its siblings.
-/

namespace DesktopAutomation

mutual

/-- The path to the first step with an id from a step that is it or holds it. -/
def Step.pathTo? (id : StepId) : Step → Option (List Nat)
  | .action own _ => if own = id then some [] else none
  | .statement own _ body => if own = id then some [] else pathTo? id 0 body

/-- The path to the first step with an id in a list or within its steps. The first step of the list
has the place `first`.
-/
def pathTo? (id : StepId) (first : Nat) : List Step → Option (List Nat)
  | [] => none
  | step :: rest =>
    match step.pathTo? id with
    | some path => some (first :: path)
    | none => pathTo? id (first + 1) rest

end

/-- The step that a path leads to. -/
def stepAt? : List Nat → List Step → Option Step
  | [], _ => none
  | [index], steps => steps[index]?
  | index :: rest, steps => (steps[index]?.bind Step.body?).bind (stepAt? rest)

/-- The text of a path, counted from one. -/
def pathText (path : List Nat) : String :=
  ".".intercalate (path.map fun index => toString (index + 1))

end DesktopAutomation
