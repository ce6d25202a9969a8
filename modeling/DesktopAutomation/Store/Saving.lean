import DesktopAutomation.Error
import DesktopAutomation.Store.Folder

/-!
Saving a text under a name, call by call. The text is first written in full to a staging file; this
file is then given the final name, which fails if the name is taken; at last the staging name is
dropped. So the file of a taken name is not written to, unless the staging name stands for it, too.
-/

namespace DesktopAutomation

/-- A text to be saved under a name in a folder at a path. -/
structure SaveOrder where
  folderPath : String
  fileName : String
  content : ByteArray

namespace SaveOrder

/-- The name of the staging file. -/
def stagingName (order : SaveOrder) : String := "." ++ order.fileName ++ ".tmp"

/-- The error of a call on a name in the folder. -/
def ioError (order : SaveOrder) (name : String) : AutomationError :=
  .storage (.io (joinPath order.folderPath name))

end SaveOrder

/-- How far a saving is. An outcome is an error, or none for success. -/
inductive Saving
  | making
  | staging
  | publishing
  | discarding (outcome : Option AutomationError)
  | finished (outcome : Option AutomationError)
deriving DecidableEq, Repr

namespace Saving

/-- The next call of a saving. That the staging name cannot be dropped is no error. -/
def step (order : SaveOrder) (saving : Saving) (folder : Folder) : Saving × Folder :=
  match saving with
  | .making =>
    match folder.make with
    | .ok made => (.staging, made)
    | .error _ => (.finished (some (.storage (.io order.folderPath))), folder)
  | .staging =>
    match folder.write order.stagingName order.content with
    | .ok written => (.publishing, written)
    | .error _ => (.discarding (some (order.ioError order.stagingName)), folder)
  | .publishing =>
    match folder.link order.stagingName order.fileName with
    | .ok linked => (.discarding none, linked)
    | .error .alreadyExists =>
      (.discarding (some (.conflict (.fileExists order.fileName))), folder)
    | .error _ => (.discarding (some (order.ioError order.fileName)), folder)
  | .discarding outcome =>
    match folder.unlink order.stagingName with
    | .ok left => (.finished outcome, left)
    | .error _ => (.finished outcome, folder)
  | .finished outcome => (.finished outcome, folder)

/-- A number of calls of a saving. -/
def steps (order : SaveOrder) : Nat → Saving → Folder → Saving × Folder
  | 0, saving, folder => (saving, folder)
  | count + 1, saving, folder =>
    let (next, changed) := saving.step order folder
    next.steps order count changed

/-- The outcome of a saving that is finished. -/
def outcome? : Saving → Option (Option AutomationError)
  | .finished outcome => some outcome
  | _ => none

/-- A saving has this many calls at most. -/
def callCount : Nat := 4

end Saving

/-- Saves a text: all calls of its saving, one right behind the other. -/
def SaveOrder.run (order : SaveOrder) (folder : Folder) : Option AutomationError × Folder :=
  let (saving, changed) := Saving.making.steps order Saving.callCount folder
  (saving.outcome?.join, changed)

end DesktopAutomation
