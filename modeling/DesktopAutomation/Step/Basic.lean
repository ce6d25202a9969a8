import DesktopAutomation.Step.Condition
import DesktopAutomation.Step.Input
import DesktopAutomation.Text.Split
import DesktopAutomation.Variable.Basic

/-!
Steps of an automation. An action does one thing, a statement has a body of further steps that it
runs in its own way. Some steps declare a variable, which they then own.
-/

namespace DesktopAutomation

-----------------------------------------------------------------------------------------
-- Actions and statements
-----------------------------------------------------------------------------------------

/-- What a step without a body does. -/
inductive Action
  | move (target : Point)
  | click (button : MouseButton)
  | write (text readFrom : String)
  | parseString (text readFrom divider saveAs : String)
  | sleep (time : UInt64)
  | pressKeyboard (combination : KeyCombination)
  | setVariable (saveAs value : String)
  | destructVariable (readFrom : String) (index : UInt64) (saveAs : String)
deriving DecidableEq, Repr

/-- How a step with a body runs it: once for each item of a list, or if a condition holds. -/
inductive Statement
  | cycle (iterable saveItemsAs : String)
  | conditional (condition : Condition)
deriving DecidableEq, Repr

/-- A step: what it does, with the id that tells it from the other steps. -/
inductive Step
  | action (id : StepId) (action : Action)
  | statement (id : StepId) (statement : Statement) (body : List Step)

/-- The name of an action's type. -/
def Action.typeName : Action → String
  | .move .. => "move"
  | .click .. => "click"
  | .write .. => "write"
  | .parseString .. => "parseString"
  | .sleep .. => "sleep"
  | .pressKeyboard .. => "pressKeyboard"
  | .setVariable .. => "setVariable"
  | .destructVariable .. => "destructVariable"

/-- The name of a statement's type. -/
def Statement.typeName : Statement → String
  | .cycle .. => "cycle"
  | .conditional .. => "conditional"

/-- At most this many characters of a text are shown. -/
def shownTextLimit : Nat := 50

/-- The text of an action. -/
def Action.text : Action → String
  | .move target => s!"move({target.x.toNat}, {target.y.toNat})"
  | .click button => s!"click({button.name})"
  | .write text readFrom =>
    if text = "" then s!"write(${readFrom})"
    else s!"write({Text.shorten text shownTextLimit})"
  | .parseString _ _ divider saveAs => s!"parseString({Text.quoted divider} -> {saveAs})"
  | .sleep time => s!"sleep({time.toNat}ms)"
  | .pressKeyboard combination => s!"pressKeyboard({combination.text})"
  | .setVariable saveAs _ => s!"setVariable({saveAs})"
  | .destructVariable readFrom index saveAs =>
    s!"destructVariable(${readFrom}[{index.toNat}] -> {saveAs})"

/-- The text of a statement with a number of steps in its body. -/
def Statement.text (steps : Nat) : Statement → String
  | .cycle iterable saveItemsAs => s!"cycle({saveItemsAs} in ${iterable}, {steps} steps)"
  | .conditional condition => s!"conditional({condition.text}, {steps} steps)"

/-- The variable that an action declares, with its name. -/
def Action.declaration? (id : StepId) : Action → Option (String × Variable)
  | .parseString _ _ _ saveAs => some (saveAs, ⟨id, .list, .null⟩)
  | .destructVariable _ _ saveAs => some (saveAs, ⟨id, .value, .null⟩)
  | .setVariable saveAs value => some (saveAs, .ofText id value)
  | _ => none

/-- The variable that a statement declares, with its name. -/
def Statement.declaration? (id : StepId) : Statement → Option (String × Variable)
  | .cycle _ saveItemsAs => some (saveItemsAs, ⟨id, .value, .null⟩)
  | .conditional _ => none

/-- Two statements run their bodies in the same way. -/
def Statement.sameKind : Statement → Statement → Bool
  | .cycle .., .cycle .. | .conditional .., .conditional .. => true
  | _, _ => false

-----------------------------------------------------------------------------------------
-- Steps
-----------------------------------------------------------------------------------------

namespace Step

/-- The id of a step. -/
def id : Step → StepId
  | .action id _ | .statement id _ _ => id

/-- The step with another id. -/
def withId (id : StepId) : Step → Step
  | .action _ act => .action id act
  | .statement _ stmt body => .statement id stmt body

/-- The body of a statement. -/
def body? : Step → Option (List Step)
  | .action .. => none
  | .statement _ _ body => some body

/-- The step with another body, if it has one. -/
def withBody (body : List Step) : Step → Step
  | .action id act => .action id act
  | .statement id stmt _ => .statement id stmt body

/-- The step can hold further steps. -/
def isContainer (step : Step) : Bool := step.body?.isSome

/-- The name of a step's type. -/
def typeName : Step → String
  | .action _ act => act.typeName
  | .statement _ stmt _ => stmt.typeName

/-- The text of a step. -/
def text : Step → String
  | .action _ act => act.text
  | .statement _ stmt body => stmt.text body.length

/-- The variable that a step declares and owns, with its name. -/
def declaration? : Step → Option (String × Variable)
  | .action id act => act.declaration? id
  | .statement id stmt _ => stmt.declaration? id

/-- The name of the variable that a step declares. -/
def declaredName? (step : Step) : Option String := step.declaration?.map (·.1)

/-- The target of a step that moves the pointer. -/
def target? : Step → Option Point
  | .action _ (.move target) => some target
  | _ => none

/-- Two steps are statements of one kind. -/
def sameContainer : Step → Step → Bool
  | .statement _ a _, .statement _ b _ => a.sameKind b
  | _, _ => false

/-- A declared variable is owned by the step that declares it. -/
theorem owner_of_declaration? {step : Step} {name : String} {declared : Variable}
    (declares : step.declaration? = some (name, declared))
    : declared.owner = step.id := by
  cases step with
  | action id act => cases act <;> simp_all [declaration?, Action.declaration?, Step.id] <;>
      (obtain ⟨_, rfl⟩ := declares; rfl)
  | statement id stmt body =>
    cases stmt <;> simp_all [declaration?, Statement.declaration?, Step.id]
    obtain ⟨_, rfl⟩ := declares
    rfl

mutual

/-- Equality of steps, decided part by part. -/
def decEq : (a b : Step) → Decidable (a = b)
  | .action i a, .action j b =>
    if same : i = j ∧ a = b then isTrue (by rw [same.1, same.2])
    else isFalse fun equal => same (by cases equal; exact ⟨rfl, rfl⟩)
  | .statement i s as, .statement j t bs =>
    if same : i = j ∧ s = t then
      match decEqAll as bs with
      | isTrue equal => isTrue (by rw [same.1, same.2, equal])
      | isFalse differ => isFalse fun equal => differ (by cases equal; rfl)
    else isFalse fun equal => same (by cases equal; exact ⟨rfl, rfl⟩)
  | .action .., .statement .. => isFalse (by simp)
  | .statement .., .action .. => isFalse (by simp)

/-- Equality of lists of steps, decided step by step. -/
def decEqAll : (as bs : List Step) → Decidable (as = bs)
  | [], [] => isTrue rfl
  | a :: as, b :: bs =>
    match decEq a b, decEqAll as bs with
    | isTrue head, isTrue tail => isTrue (by rw [head, tail])
    | isFalse differ, _ => isFalse fun equal => differ (List.cons.inj equal).1
    | _, isFalse differ => isFalse fun equal => differ (List.cons.inj equal).2
  | [], _ :: _ => isFalse (by simp)
  | _ :: _, [] => isFalse (by simp)

end

instance : DecidableEq Step := decEq

end Step

end DesktopAutomation
