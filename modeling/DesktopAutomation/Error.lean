import DesktopAutomation.Backend.Dispatch
import DesktopAutomation.Step.Id

/-!
What can go wrong with an automation. Every error has a message of its own and a chain of causes
below it. Faults of a text that is no document, and faults of the file system, are not told in
detail.
-/

namespace DesktopAutomation

-----------------------------------------------------------------------------------------
-- Documents
-----------------------------------------------------------------------------------------

/-- An integer of a document that must be safe. -/
inductive IntegerField
  | id
  | moveX
  | moveY
  | sleepTime
  | keyCode
  | index
  | ownerId
deriving DecidableEq, Repr

/-- The name of a field. -/
def IntegerField.name : IntegerField → String
  | .id => "id"
  | .moveX => "move.x"
  | .moveY => "move.y"
  | .sleepTime => "sleep.time"
  | .keyCode => "pressKeyboard.keyCode"
  | .index => "destructVariable.index"
  | .ownerId => "ownerId"

/-- Why a text is no valid document. -/
inductive DocumentError
  | malformed
  | unsafeInteger (field : IntegerField) (value : UInt64)
  | duplicateStepId (id : StepId)
deriving DecidableEq, Repr

/-- The message of a document error. -/
def DocumentError.message : DocumentError → String
  | .malformed => "malformed automation document"
  | .unsafeInteger field value =>
    "field `" ++ field.name ++ "` holds " ++ toString value.toNat
      ++ ", above the safe integer range"
  | .duplicateStepId id => "step id " ++ id.text ++ " is used more than once"

-----------------------------------------------------------------------------------------
-- Changes, look-ups, files, screens
-----------------------------------------------------------------------------------------

/-- Why a change is refused. -/
inductive ConflictError
  | variableOwned (name : String) (owner : StepId)
  | stepIdTaken (id : StepId)
  | notAContainer (id : StepId)
  | pointerOutOfBounds (target : Point)
  | fileExists (fileName : String)
deriving DecidableEq, Repr

/-- The message of a conflict. -/
def ConflictError.message : ConflictError → String
  | .variableOwned name owner =>
    "variable `" ++ name ++ "` is already owned by step " ++ owner.text
  | .stepIdTaken id => "step id " ++ id.text ++ " is already in use"
  | .notAContainer id => "step " ++ id.text ++ " cannot hold nested steps"
  | .pointerOutOfBounds target =>
    s!"pointer position ({target.x.toNat}, {target.y.toNat}) is outside the screen"
  | .fileExists fileName => "file `" ++ fileName ++ "` already exists"

/-- What was looked for and is not there. -/
inductive Missing
  | step (id : StepId)
  | automation (fileName : String)
deriving DecidableEq, Repr

/-- The message about something missing. -/
def Missing.message : Missing → String
  | .step id => "Step `" ++ id.text ++ "` not found"
  | .automation fileName => "Automation `" ++ fileName ++ "` not found"

/-- Why the file system did not do what it was asked for. -/
inductive StorageError
  | io (path : String)
  | invalidFileName (fileName : String)
deriving DecidableEq, Repr

/-- The message of a storage error. -/
def StorageError.message : StorageError → String
  | .io path => "io error on `" ++ path ++ "`"
  | .invalidFileName fileName => "invalid file name `" ++ fileName ++ "`"

/-- Why a screen did not take an input. -/
inductive BackendError
  | outOfBounds (target : Point) (screen : Screen)
  | offline
deriving DecidableEq, Repr

/-- The message of a backend error. -/
def BackendError.message : BackendError → String
  | .outOfBounds target screen =>
    s!"position ({target.x.toNat}, {target.y.toNat}) is outside the "
      ++ s!"{screen.width.toNat}x{screen.height.toNat} screen"
  | .offline => "virtual backend is offline"

-----------------------------------------------------------------------------------------
-- All of them
-----------------------------------------------------------------------------------------

/-- An error of any of these kinds. -/
inductive AutomationError
  | document (cause : DocumentError)
  | conflict (cause : ConflictError)
  | notFound (missing : Missing)
  | storage (cause : StorageError)
  | backend (cause : BackendError)
deriving DecidableEq, Repr

namespace AutomationError

/-- The message of the kind of an error. -/
def message : AutomationError → String
  | .document _ => "cannot load automation"
  | .conflict _ => "conflicting change"
  | .notFound _ => "not found"
  | .storage _ => "storage error"
  | .backend _ => "input backend error"

/-- The messages of the causes of an error. -/
def causes : AutomationError → List String
  | .document cause => [cause.message]
  | .conflict cause => [cause.message]
  | .notFound missing => [missing.message]
  | .storage cause => [cause.message]
  | .backend cause => [cause.message]

end AutomationError

/-- Why a run stopped before its end. -/
inductive RunError
  | variableNotFound (step : StepId) (name : String)
  | variableType (step : StepId) (name expected found : String)
  | backend (step : StepId) (cause : BackendError)
  | cancelled
deriving DecidableEq, Repr

namespace RunError

/-- The step that failed. -/
def step? : RunError → Option StepId
  | .variableNotFound step _ | .variableType step _ _ _ | .backend step _ => some step
  | .cancelled => none

/-- The message of a run error. -/
def message : RunError → String
  | .variableNotFound step name =>
    "step " ++ step.text ++ ": variable `" ++ name ++ "` does not exist"
  | .variableType step name expected found =>
    "step " ++ step.text ++ ": variable `" ++ name ++ "` holds " ++ found
      ++ ", expected " ++ expected
  | .backend step _ => "step " ++ step.text ++ ": input backend call failed"
  | .cancelled => "run cancelled"

/-- The messages of the causes of a run error. -/
def causes : RunError → List String
  | .backend _ cause => [(AutomationError.backend cause).message, cause.message]
  | _ => []

end RunError

end DesktopAutomation
