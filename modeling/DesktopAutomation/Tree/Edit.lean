import DesktopAutomation.Step.Basic

/-!
Edits of nested lists of steps. The first step with an id is found in the order of a walk; taking a
step out prefers a sibling to the steps within its siblings.
-/

namespace DesktopAutomation

mutual

/-- Edits the first step with an id, here or within. -/
def Step.editFirst? (id : StepId) (edit : Step → Step) : Step → Option Step
  | .action own act => if own = id then some (edit (.action own act)) else none
  | .statement own stmt body =>
    if own = id then some (edit (.statement own stmt body))
    else (editFirst? id edit body).map (.statement own stmt)

/-- Edits the first step with an id in a list or within its steps. -/
def editFirst? (id : StepId) (edit : Step → Step) : List Step → Option (List Step)
  | [] => none
  | step :: rest =>
    match step.editFirst? id edit with
    | some edited => some (edited :: rest)
    | none => (editFirst? id edit rest).map (step :: ·)

end

/-- Takes the first step with an id out of a list, not looking within the steps. -/
def takeSibling? (id : StepId) : List Step → Option (Step × List Step)
  | [] => none
  | step :: rest =>
    if step.id = id then some (step, rest)
    else (takeSibling? id rest).map fun (taken, left) => (taken, step :: left)

mutual

/-- Takes a step with an id out of the body of a step. A body is searched before the bodies in it.
-/
def Step.takeBelow? (id : StepId) : Step → Option (Step × Step)
  | .action .. => none
  | .statement own stmt body =>
    match takeSibling? id body with
    | some (taken, left) => some (taken, .statement own stmt left)
    | none => (takeBelow? id body).map fun (taken, left) => (taken, .statement own stmt left)

/-- Takes a step with an id out of the bodies of the steps of a list. -/
def takeBelow? (id : StepId) : List Step → Option (Step × List Step)
  | [] => none
  | step :: rest =>
    match step.takeBelow? id with
    | some (taken, left) => some (taken, left :: rest)
    | none => (takeBelow? id rest).map fun (taken, left) => (taken, step :: left)

end

/-- Takes a step with an id out of a list or out of the bodies of its steps. -/
def takeStep? (id : StepId) (steps : List Step) : Option (Step × List Step) :=
  (takeSibling? id steps).or (takeBelow? id steps)

/-- Moves the item at one place of a list to another place. -/
def moveItem {α : Type} (source destination : Nat) (items : List α) : List α :=
  match items[source]? with
  | some item => (items.eraseIdx source).insertIdx destination item
  | none => items

end DesktopAutomation
