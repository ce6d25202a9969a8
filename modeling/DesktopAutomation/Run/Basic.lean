import DesktopAutomation.Run.Action

/-!
Runs: steps are done one after the other, each behind a wait, and the first error stops all. A
cycle runs its body once for each item that the list had at its start, with the item shadowing the
name for items.
-/

namespace DesktopAutomation.Run
open Deed

-----------------------------------------------------------------------------------------
-- Reading variables
-----------------------------------------------------------------------------------------

/-- The variable of a name. -/
def lookUp (id : StepId) (name : String) (environment : Environment)
    : Except RunError Variable :=
  match environment.get? name with
  | some binding => .ok binding
  | none => .error (.variableNotFound id name)

/-- The text that a variable holds. -/
def readText (id : StepId) (name : String) (environment : Environment)
    : Except RunError String := do
  let binding ← lookUp id name environment
  match binding.value.asText? with
  | some text => .ok text
  | none => .error (.variableType id name "text" binding.value.shape)

/-- The list that a variable holds. -/
def readList (id : StepId) (name : String) (environment : Environment)
    : Except RunError (List VariableValue) := do
  let binding ← lookUp id name environment
  match binding.value.asList? with
  | some items => .ok items
  | none => .error (.variableType id name "list" binding.value.shape)

/-- A text that is given, or else the text that a variable holds. -/
def readInput (id : StepId) (text readFrom : String) (environment : Environment)
    : Except RunError String :=
  if text = "" then readText id readFrom environment else .ok text

/-- The value of a side of a condition. -/
def readSide (id : StepId) (side : ConditionSide) (environment : Environment)
    : Except RunError VariableValue :=
  match side with
  | .literal text => .ok (.text text)
  | .variable name => (lookUp id name environment).map (·.value)

/-- A condition holds. Its left side is read first. -/
def readCondition (id : StepId) (condition : Condition) (environment : Environment)
    : Except RunError Bool := do
  let left ← readSide id condition.left environment
  let right ← readSide id condition.right environment
  return condition.operator.holds left right

-----------------------------------------------------------------------------------------
-- Typing
-----------------------------------------------------------------------------------------

/-- The input that types one line. Carriage returns at its end are left out, and so is a line of
which nothing is left.
-/
def typeLine (line : String) : List Dispatch :=
  let shown := Text.trimEnd (· == '\r') line.toList
  if shown = [] then [] else [.text (String.ofList shown)]

/-- The input that types a text: its lines, with the Enter key between them. -/
def typing (text : String) : List Dispatch :=
  match Text.lines text with
  | [] => []
  | first :: rest =>
    typeLine first ++ rest.flatMap fun line => .keys .enter false :: typeLine line

-----------------------------------------------------------------------------------------
-- Running
-----------------------------------------------------------------------------------------

variable {σ : Type}

/-- Does an action. -/
def runAction (backend : InputBackend σ) (controls : Controls) (id : StepId) : Action → Deed σ
  | .move target => send backend id (.move target)
  | .click button => send backend id (.click button)
  | .pressKeyboard combination => send backend id (.keys combination combination.usesUnicode)
  | .write text readFrom =>
    reading (readInput id text readFrom) fun typed => forEach (send backend id) (typing typed)
  | .parseString text readFrom divider saveAs =>
    reading (readInput id text readFrom) fun input =>
      change fun environment => environment.set saveAs (.ofTexts id (Text.split input divider))
  | .sleep time => wait controls time.toNat
  | .setVariable saveAs value =>
    change fun environment => environment.set saveAs (.ofText id value)
  | .destructVariable readFrom index saveAs =>
    reading (readList id readFrom) fun items =>
      change fun environment =>
        environment.set saveAs ⟨id, .value, (items[index.toNat]?).getD .null⟩

mutual

/-- Does a step. -/
def runStep (backend : InputBackend σ) (controls : Controls) : Step → Deed σ
  | .action id act => runAction backend controls id act
  | .statement id (.cycle iterable saveItemsAs) body =>
    reading (readList id iterable) fun items =>
      forEach (fun item => shadowing saveItemsAs ⟨id, .value, item⟩ (runSteps backend controls body))
        items
  | .statement id (.conditional condition) body =>
    reading (readCondition id condition) fun holds =>
      if holds then runSteps backend controls body else done

/-- Does steps one after the other, each behind a wait. -/
def runSteps (backend : InputBackend σ) (controls : Controls) : List Step → Deed σ
  | [] => done
  | step :: rest =>
    (wait controls controls.delay).andThen <|
    (start step).andThen <|
    (runStep backend controls step).andThen <|
    runSteps backend controls rest

end

-----------------------------------------------------------------------------------------
-- Runs on virtual screens
-----------------------------------------------------------------------------------------

/-- The outcome of a run: why it stopped, if it did, and the world at its end. -/
structure Report (σ : Type) where
  error? : Option RunError
  world : World σ

/-- Runs steps from the beginning. -/
def play (backend : InputBackend σ) (controls : Controls) (steps : List Step) (device : σ)
    (environment : Environment) : Report σ :=
  let (error?, world) := runSteps backend controls steps (.initial device environment)
  ⟨error?, world⟩

/-- Runs steps on a virtual screen, which may go offline right behind a number of input calls. -/
def playOn (controls : Controls) (offlineAfter : Option Nat) (steps : List Step)
    (device : VirtualScreen) (environment : Environment) : Report FailingScreen :=
  play FailingScreen.backend controls steps (FailingScreen.settle ⟨device, offlineAfter⟩)
    environment

end DesktopAutomation.Run
