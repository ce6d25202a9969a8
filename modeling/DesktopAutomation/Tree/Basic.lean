import DesktopAutomation.Step.Record
import DesktopAutomation.Tree.Edit
import DesktopAutomation.Tree.Position
import DesktopAutomation.Tree.Walk

/-!
Trees of steps, edited step by step. A step is addressed by its id; if several steps share an id,
the first one in the order of a walk is meant. An edit that does not apply has no result.
-/

namespace DesktopAutomation

/-- The steps of an automation. -/
structure StepTree where
  steps : List Step
deriving DecidableEq

namespace StepTree

/-- The tree without steps. -/
def empty : StepTree := ⟨[]⟩

/-- All steps of a tree, in the order of a walk. -/
def toList (tree : StepTree) : List Step := walk tree.steps

/-- The first step with an id. -/
def find? (tree : StepTree) (id : StepId) : Option Step :=
  tree.toList.find? (·.id == id)

/-- A step has the id. -/
def contains (tree : StepTree) (id : StepId) : Bool := (tree.find? id).isSome

/-- The path to the first step with an id. -/
def path? (tree : StepTree) (id : StepId) : Option (List Nat) := pathTo? id 0 tree.steps

/-- The text of the path to a step, empty if there is none. -/
def positionPath (tree : StepTree) (id : StepId) : String :=
  match tree.path? id with
  | some path => pathText path
  | none => ""

/-- The id behind the greatest one in use. -/
def nextId (tree : StepTree) : StepId :=
  match tree.toList.map Step.id with
  | [] => ⟨0⟩
  | id :: rest => (rest.foldl StepId.max id).next

/-- The list of steps that a container holds; without a container, the steps of the tree. -/
def siblings? (tree : StepTree) : Option StepId → Option (List Step)
  | none => some tree.steps
  | some id => (tree.find? id).bind Step.body?

/-- Changes the list of steps that a container holds. -/
def editSiblings? (tree : StepTree) (container : Option StepId) (edit : List Step → List Step)
    : Option StepTree :=
  match container with
  | none => some ⟨edit tree.steps⟩
  | some id =>
    if (tree.find? id).any Step.isContainer then
      (editFirst? id (fun step => step.withBody (edit (step.body?.getD []))) tree.steps).map mk
    else
      none

/-- Puts a step behind the others in the tree or in a container. -/
def insert? (tree : StepTree) (step : Step) (parent : Option StepId) : Option StepTree :=
  tree.editSiblings? parent (· ++ [step])

/-- Takes a step out of the tree. -/
def remove? (tree : StepTree) (id : StepId) : Option (Step × StepTree) :=
  (takeStep? id tree.steps).map fun (taken, left) => (taken, ⟨left⟩)

/-- Puts a step in the place of the one with its id. -/
def replace? (tree : StepTree) (id : StepId) (step : Step) : Option StepTree :=
  if step.id = id then (editFirst? id (fun _ => step) tree.steps).map mk else none

/-- Moves a step to another place among its siblings. -/
def reorder? (tree : StepTree) (source destination : Nat) (container : Option StepId)
    : Option StepTree := do
  let siblings ← tree.siblings? container
  if source < siblings.length ∧ destination < siblings.length then
    tree.editSiblings? container (moveItem source destination)
  else
    none

/-- Takes all steps out of the tree or out of a container. -/
def clear? (tree : StepTree) (container : Option StepId) : Option (List Step × StepTree) := do
  let removed ← tree.siblings? container
  let left ← tree.editSiblings? container fun _ => []
  return (removed, left)

/-- The JSON form of a tree. -/
def toJson (tree : StepTree) : Json := .array (Step.bodyToJson tree.steps)

/-- Reads the JSON form of a tree. -/
def ofJson? (json : Json) : Option StepTree := (Step.listOfJson? json).map mk

end StepTree

end DesktopAutomation
