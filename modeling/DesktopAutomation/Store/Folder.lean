import DesktopAutomation.Store.FileTree

/-!
A single folder and what the file system does to it, one call at a time. The folder may be missing,
and a file may stand in its place.
-/

namespace DesktopAutomation

/-- Why a call on the file system fails. -/
inductive FileFault
  | notFound
  | alreadyExists
  | other
deriving DecidableEq, Repr

/-- A folder. -/
inductive Folder
  | absent
  | file
  | present (entries : NameMap Entry)

namespace Folder

/-- The entries of a folder, none if there is no folder. -/
def entries : Folder → NameMap Entry
  | .present entries => entries
  | _ => .empty

/-- The entry of a name. -/
def find? (folder : Folder) (name : String) : Option Entry := folder.entries.find? name

/-- The entries of a folder in which a name is to be looked up. -/
def access (folder : Folder) (name : String) : Except FileFault (NameMap Entry) :=
  if name.toList.contains '\x00' ∨ longestPath < name.utf8ByteSize then .error .other
  else
    match folder with
    | .absent => .error .notFound
    | .file => .error .other
    | .present entries =>
      if longestName < name.utf8ByteSize then .error .other else .ok entries

/-- A mark that no file of a folder has. -/
def freshMark (entries : NameMap Entry) : Nat :=
  entries.entries.foldl
    (fun mark entry =>
      match entry.2 with
      | .file own _ => max mark (own + 1)
      | .folder _ => mark)
    0

/-- Sets the content of a file, under all its names. -/
def setContent (mark : Nat) (content : ByteArray) (entries : NameMap Entry) : NameMap Entry :=
  entries.map fun
    | .file own old => if own = mark then .file own content else .file own old
    | .folder inner => .folder inner

-----------------------------------------------------------------------------------------
-- Calls
-----------------------------------------------------------------------------------------

/-- Makes the folder, unless it is there. -/
def make : Folder → Except FileFault Folder
  | .absent => .ok (.present .empty)
  | .file => .error .other
  | .present entries => .ok (.present entries)

/-- The content of a file. -/
def read (folder : Folder) (name : String) : Except FileFault ByteArray := do
  match (← folder.access name).find? name with
  | some (.file _ content) => .ok content
  | some (.folder _) => .error .other
  | none => .error .notFound

/-- Writes a file, a new one or over the content of the one with this name. -/
def write (folder : Folder) (name : String) (content : ByteArray) : Except FileFault Folder := do
  let entries ← folder.access name
  match entries.find? name with
  | some (.file mark _) => .ok (.present (setContent mark content entries))
  | some (.folder _) => .error .other
  | none => .ok (.present (entries.insert name (.file (freshMark entries) content)))

/-- Gives a file a second name, which must be free. -/
def link (folder : Folder) (name second : String) : Except FileFault Folder := do
  let entries ← folder.access name
  match entries.find? name with
  | none => .error .notFound
  | some entry =>
    let _ ← folder.access second
    if entries.contains second then .error .alreadyExists
    else
      match entry with
      | .file mark content => .ok (.present (entries.insert second (.file mark content)))
      | .folder _ => .error .other

/-- Takes a name from a file. -/
def unlink (folder : Folder) (name : String) : Except FileFault Folder := do
  let entries ← folder.access name
  match entries.find? name with
  | some (.file ..) => .ok (.present (entries.erase name))
  | some (.folder _) => .error .other
  | none => .error .notFound

/-- Makes an empty folder within the folder, unless the name is in use. -/
def makeInner (folder : Folder) (name : String) : Except FileFault Folder := do
  let entries ← folder.access name
  if entries.contains name then .error .alreadyExists
  else .ok (.present (entries.insert name (.folder [])))

-----------------------------------------------------------------------------------------
-- Views
-----------------------------------------------------------------------------------------

/-- What is found under a name. -/
def look (folder : Folder) (name : String) : Lookup :=
  match folder.access name with
  | .error .notFound => .missing
  | .error _ => .unreachable
  | .ok entries => ((entries.find? name).map Entry.look).getD .missing

/-- What is found in the place of the folder itself. -/
def lookSelf : Folder → Lookup
  | .absent => .missing
  | .file => .file .empty
  | .present entries => .folder entries.names

end Folder

end DesktopAutomation
