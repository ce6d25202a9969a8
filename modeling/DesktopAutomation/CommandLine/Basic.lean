import DesktopAutomation.CommandLine.Arguments
import DesktopAutomation.Editor.Session
import DesktopAutomation.Settings
import DesktopAutomation.Store.Basic

/-!
The command line: runs an automation on a virtual screen and shows what was sent, checks a document,
or lists the store. Files are only looked at. All that a command answers is in its report.
-/

namespace DesktopAutomation.CommandLine

/-- The outcome of a command: the exit code, what is shown, and on failure the error and its causes.
A run also tells how long it takes, in milliseconds.
-/
structure Report where
  exitCode : UInt32
  output : String
  errors : List String
  elapsed : Nat
deriving DecidableEq, Repr

namespace Report

/-- A success with what is shown. -/
def success (output : String) : Report := ⟨0, output, [], 0⟩

/-- A failure with the error and its causes. -/
def failure (errors : List String) : Report := ⟨1, "", errors, 0⟩

/-- Arguments that ask for nothing. -/
def misuse : Report := ⟨2, "", [], 0⟩

end Report

/-- The name and the version of the program. -/
def versionText : String := "stepwise 0.1.0\n"

/-- What the program can do. -/
def helpText : String :=
  "stepwise [--config CONFIG] run FILE [--delay-ms DELAY_MS]\n"
    ++ "stepwise [--config CONFIG] check FILE\n"
    ++ "stepwise [--config CONFIG] list\n"
    ++ "stepwise --help | --version\n"

-----------------------------------------------------------------------------------------
-- What commands show
-----------------------------------------------------------------------------------------

/-- The line for one dispatch: its number, four places wide at least, and its text. -/
def dispatchLine (number : Nat) (dispatch : Dispatch) : String :=
  let digits := toString number
  String.ofList (List.replicate (4 - digits.length) ' ') ++ digits ++ "  " ++ dispatch.shown ++ "\n"

/-- The lines for dispatches, numbered from `first`. -/
def dispatchLines (first : Nat) : List Dispatch → String
  | [] => ""
  | dispatch :: rest => dispatchLine first dispatch ++ dispatchLines (first + 1) rest

/-- The line for a document that is valid. -/
def checkLine (document : Document) : String :=
  "ok: " ++ Text.quoted document.head.title
    ++ s!" ({document.steps.toList.length} steps, {document.environment.size} variables)\n"

/-- The line of a listing. -/
def listLine (stored : StoredAutomation) : String :=
  stored.fileName ++ "\t" ++ stored.head.title ++ "\t" ++ stored.head.createdAt.offsetText ++ "\n"

/-- The error of a failed run and its causes, below the position of the step that failed. -/
def runErrors (steps : StepTree) (error : RunError) : List String :=
  let position := (error.step?.map steps.positionPath).getD ""
  (if position = "" then [] else ["step " ++ position ++ " failed"]) ++ error.message :: error.causes

/-- The report of running a document under some controls, on a screen that nothing was sent to. -/
def controlledReport (settings : Settings) (controls : Run.Controls) (document : Document)
    : Report :=
  let session := EditorSession.ofDocument (.blank settings.screen) document
  let (outcome, after) := session.run controls none
  let errors := (outcome.error?.map (runErrors session.steps)).getD []
  { exitCode := if outcome.error?.isSome then 1 else 0
    output := dispatchLines 1 after.device.dispatches
    errors := errors
    elapsed := outcome.world.clock }

/-- The report of running a document that nothing cancels. -/
def runReport (settings : Settings) (delay : Option UInt64) (document : Document) : Report :=
  controlledReport settings (.steady (delay.getD settings.stepDelay).toNat) document

-----------------------------------------------------------------------------------------
-- Commands
-----------------------------------------------------------------------------------------

variable {m : Type → Type} [Monad m]

/-- Loads a document from a file, or from the store if there is no such file. -/
def loadDocument (look : String → m Lookup) (settings : Settings) (file : String)
    : m (Except (List String) Document) := do
  let found ← look file
  if found.isThere then
    match found.text? with
    | none => return .error ["cannot read " ++ file]
    | some text =>
      return (Document.read text).mapError fun error =>
        ["cannot load automation " ++ file, error.message]
  else
    let loaded ← Store.loadBy look settings.automationsFolder file
    return loaded.mapError fun error =>
      ("cannot load automation " ++ file) :: error.message :: error.causes

/-- Lists the documents of the store. -/
def listStored (look : String → m Lookup) (settings : Settings)
    : m (Except AutomationError (List StoredAutomation)) := do
  let folder := settings.automationsFolder
  match Store.namesOf folder (← look folder) with
  | .error error => return .error error
  | .ok names =>
    let listed ← (names.mergeSort (fun a b => a ≤ b)).mapM fun name => do
      return Store.stored? name (← look (joinPath folder name))
    return .ok (listed.filterMap fun stored => stored)

/-- Carries out a command. -/
def Command.execute (look : String → m Lookup) (settings : Settings) : Command → m Report
  | .run file delay => do
    match ← loadDocument look settings file with
    | .error errors => return .failure errors
    | .ok document => return runReport settings delay document
  | .check file => do
    match ← loadDocument look settings file with
    | .error errors => return .failure errors
    | .ok document => return .success (checkLine document)
  | .list => do
    match ← listStored look settings with
    | .error error => return .failure (error.message :: error.causes)
    | .ok listed => return .success (String.join (listed.map listLine))

/-- Carries out what is asked for. -/
def Request.execute (look : String → m Lookup) (environment : String → Option String)
    : Request → m Report
  | .version => return .success versionText
  | .help => return .success helpText
  | .command path? asked => do
    let path := path?.getD Settings.standardPath
    match Settings.load (← look path) environment with
    | .error error =>
      return .failure ["cannot load configuration from " ++ path, error.message]
    | .ok settings => asked.execute look settings

/-- Carries out the arguments of the command line. -/
def execute (look : String → m Lookup) (environment : String → Option String)
    (arguments : List String) : m Report :=
  match read arguments with
  | .error _ => return .misuse
  | .ok request => request.execute look environment

end DesktopAutomation.CommandLine
