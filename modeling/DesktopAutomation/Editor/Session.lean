import DesktopAutomation.Document.Validity
import DesktopAutomation.Run.Basic

/-!
Editor sessions: building an automation step by step. A session holds the steps and the variables
that they declare, and a virtual screen to try them on. An edit either applies as a whole or is
refused with the reason and changes nothing.
-/

namespace DesktopAutomation

/-- An automation that is being edited. -/
structure EditorSession where
  steps : StepTree
  environment : Environment
  createdAt : Option Timestamp
  device : VirtualScreen

namespace EditorSession

/-- A session on an empty automation. -/
def fresh (device : VirtualScreen) : EditorSession := ⟨.empty, .empty, none, device⟩

/-- A session on the automation of a document. -/
def ofDocument (device : VirtualScreen) (document : Document) : EditorSession :=
  ⟨document.steps, document.environment, some document.head.createdAt, device⟩

/-- An id behind those in use. -/
def nextId (session : EditorSession) : StepId := session.steps.nextId

-----------------------------------------------------------------------------------------
-- Conflicts
-----------------------------------------------------------------------------------------

/-- The first conflict of new steps with the tree or with each other: an id in use, or a name that
two of them declare. `seen` are the ids, and `owners` the declared keys, of the steps before.
-/
def newcomerConflict? (tree : StepTree) (seen : List StepId) (owners : List (String × StepId))
    : List Step → Option ConflictError
  | [] => none
  | step :: rest =>
    if tree.contains step.id ∨ step.id ∈ seen then some (.stepIdTaken step.id)
    else
      match step.declaredName? with
      | none => newcomerConflict? tree (step.id :: seen) owners rest
      | some name =>
        match owners.lookup (keyOf name) with
        | some owner => some (.variableOwned name owner)
        | none => newcomerConflict? tree (step.id :: seen) ((keyOf name, step.id) :: owners) rest

/-- A step declares a name that a variable of another step has. -/
def ownershipConflict? (environment : Environment) (step : Step) : Option ConflictError := do
  let name ← step.declaredName?
  let existing ← environment.get? name
  if existing.owner = step.id then none else some (.variableOwned name existing.owner)

/-- A step moves the pointer off the screen. -/
def pointerConflict? (screen : Screen) (step : Step) : Option ConflictError := do
  let target ← step.target?
  if screen.contains target then none else some (.pointerOutOfBounds target)

/-- The first conflict of a step with the variables and the screen. -/
def stepConflict? (session : EditorSession) (step : Step) : Option ConflictError :=
  (ownershipConflict? session.environment step).or
    (pointerConflict? session.device.screen step)

/-- Why a container cannot take steps or lose them: it is missing, or it is none. -/
def containerRefusal? (tree : StepTree) : Option StepId → Option AutomationError
  | none => none
  | some id =>
    match tree.find? id with
    | none => some (.notFound (.step id))
    | some step => if step.isContainer then none else some (.conflict (.notAContainer id))

-----------------------------------------------------------------------------------------
-- Variables of steps
-----------------------------------------------------------------------------------------

/-- Binds the variables that steps declare. -/
def register (environment : Environment) (steps : List Step) : Environment :=
  (steps.filterMap Step.declaration?).foldl
    (fun bound (name, binding) => bound.set name binding) environment

/-- Drops the binding of a name if the variable has a given owner. -/
def deleteOwned (owner : StepId) (name : String) (environment : Environment) : Environment :=
  if (environment.get? name).any (·.owner == owner) then environment.delete name else environment

/-- Drops what steps declare and own. -/
def release (environment : Environment) (steps : List Step) : Environment :=
  steps.foldl (fun bound step =>
    match step.declaredName? with
    | some name => deleteOwned step.id name bound
    | none => bound) environment

-----------------------------------------------------------------------------------------
-- Edits
-----------------------------------------------------------------------------------------

/-- Puts a step with all steps within it behind the others in the tree or in a container. -/
def add (session : EditorSession) (step : Step) (parent : Option StepId)
    : Except AutomationError EditorSession :=
  let incoming := walk [step]
  match newcomerConflict? session.steps [] [] incoming with
  | some conflict => .error (.conflict conflict)
  | none =>
    match containerRefusal? session.steps parent with
    | some refusal => .error refusal
    | none =>
      match incoming.findSome? session.stepConflict? with
      | some conflict => .error (.conflict conflict)
      | none =>
        .ok { session with
          steps := (session.steps.insert? step parent).getD session.steps
          environment := register session.environment incoming }

/-- Puts another version in the place of a step. It keeps the id, and the body if both versions run
it in the same way; otherwise the body is dropped, with the variables of its steps.
-/
def edit (session : EditorSession) (id : StepId) (step : Step)
    : Except AutomationError EditorSession :=
  match session.steps.find? id with
  | none => .error (.notFound (.step id))
  | some old =>
    let carried := old.sameContainer step
    let version := (step.withId id).withBody (if carried then old.body?.getD [] else [])
    match session.stepConflict? version with
    | some conflict => .error (.conflict conflict)
    | none =>
      let kept := version.declaredName?.map keyOf
      let renamed := old.declaredName?.filter fun name => kept != some (keyOf name)
      let dropped := if carried then [] else walk (old.body?.getD [])
      let left := (renamed.elim session.environment fun name =>
        deleteOwned id name session.environment)
      .ok { session with
        steps := (session.steps.replace? id version).getD session.steps
        environment := register (release left dropped) [version] }

/-- Takes a step out, with everything within it and the variables that they declare. -/
def remove (session : EditorSession) (id : StepId)
    : Except AutomationError (Step × EditorSession) :=
  match session.steps.remove? id with
  | none => .error (.notFound (.step id))
  | some (removed, left) =>
    let (_, environment) := session.environment.deleteDeclared session.steps id
    .ok (removed, { session with steps := left, environment := environment })

/-- Moves a step to another place among its siblings. -/
def reorder? (session : EditorSession) (source destination : Nat) (container : Option StepId)
    : Option EditorSession :=
  (session.steps.reorder? source destination container).map fun steps =>
    { session with steps := steps }

/-- Takes all steps out of the tree or out of a container, with the variables that they declare. -/
def clear (session : EditorSession) (container : Option StepId)
    : Except AutomationError (List Step × EditorSession) :=
  match containerRefusal? session.steps container with
  | some refusal => .error refusal
  | none =>
    let (removed, left) := (session.steps.clear? container).getD ([], session.steps)
    let (_, environment) :=
      session.environment.deleteAll ((walk removed).filterMap Step.declaredName?)
    .ok (removed, { session with steps := left, environment := environment })

-----------------------------------------------------------------------------------------
-- Trying out
-----------------------------------------------------------------------------------------

/-- A step that moves the pointer to where it is now. -/
def captureMove (session : EditorSession) : Except AutomationError Step :=
  match session.device.pointer? with
  | .ok point => .ok (.action session.nextId (.move point))
  | .error error => .error (.backend error)

/-- Sends input to the screen of the session directly. -/
def send (session : EditorSession) (dispatch : Dispatch)
    : Except AutomationError EditorSession :=
  match session.device.send dispatch with
  | (none, device) => .ok { session with device := device }
  | (some error, _) => .error (.backend error)

/-- The session with its screen switched offline or online. -/
def switchOffline (session : EditorSession) (offline : Bool) : EditorSession :=
  { session with device := { session.device with offline := offline } }

/-- Runs the automation on a copy of its variables. Only the screen of the session changes. -/
def run (session : EditorSession) (controls : Run.Controls) (offlineAfter : Option Nat)
    : Run.Report FailingScreen × EditorSession :=
  let report := Run.playOn controls offlineAfter session.steps.steps session.device
    session.environment
  (report, { session with device := report.world.device.device })

/-- The automation as a document. A blank title is replaced; the time counts for a new one. -/
def toDocument (session : EditorSession) (title : String) (now : Timestamp) : Document :=
  let trimmed := Text.trim title
  ⟨⟨if trimmed = "" then "Untitled" else trimmed, session.createdAt.getD now⟩,
    session.steps, session.environment⟩

end EditorSession

end DesktopAutomation
