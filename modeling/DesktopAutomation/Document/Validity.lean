import DesktopAutomation.Document.Basic
import DesktopAutomation.Error

/-!
Valid documents: all integers are safe and no step id is used twice. The first violation is found in
the order of a walk; of one step the id comes first, then its repetition, then the data in their
order. Variables come last, in the order of their names.
-/

namespace DesktopAutomation

/-- The integers in the data of a step, in their order. -/
def Step.integers : Step → List (IntegerField × UInt64)
  | .action _ (.move target) => [(.moveX, target.x), (.moveY, target.y)]
  | .action _ (.sleep time) => [(.sleepTime, time)]
  | .action _ (.pressKeyboard combination) => [(.keyCode, combination.keyCode)]
  | .action _ (.destructVariable _ index _) => [(.index, index)]
  | _ => []

/-- The first integer of a list that is not safe. -/
def firstUnsafe? (integers : List (IntegerField × UInt64)) : Option DocumentError :=
  (integers.find? fun (_, value) => largestSafe < value).map fun (field, value) =>
    .unsafeInteger field value

/-- The first violation of a step behind steps with the ids `seen`. -/
def Step.violation? (seen : List StepId) (step : Step) : Option DocumentError :=
  if step.id.isSafe then
    if step.id ∈ seen then some (.duplicateStepId step.id) else firstUnsafe? step.integers
  else
    some (.unsafeInteger .id step.id.value)

/-- The first violation among listed steps behind steps with the ids `seen`. -/
def stepsViolation? (seen : List StepId) : List Step → Option DocumentError
  | [] => none
  | step :: rest =>
    match step.violation? seen with
    | some violation => some violation
    | none => stepsViolation? (step.id :: seen) rest

/-- The first violation of a document. -/
def Document.violation? (document : Document) : Option DocumentError :=
  (stepsViolation? [] document.steps.toList).or
    (firstUnsafe? (document.environment.bindings.entries.map fun (_, binding) =>
      (.ownerId, binding.owner.value)))

end DesktopAutomation
