import DesktopAutomation.Store.Basic

/-!
A whole file system, with calls that are made at paths. Folders lie within folders, and a symbolic
link leads on along a path of its own. A path is followed part by part from the root or from the
folder that relative paths start in. The calls of a store are made at paths, too.
-/

namespace DesktopAutomation

/-- What stands at a place of a file system. -/
inductive Item
  | file (content : ByteArray)
  | folder
  | link (target : String)

namespace Item

/-- The content of a file; nothing else can be read. -/
def content : Item → Except FileFault ByteArray
  | .file content => .ok content
  | _ => .error .other

instance isFolderDecidable : (item? : Option Item) → Decidable (item? = some .folder)
  | some .folder => .isTrue rfl
  | some (.file _) => .isFalse (by simp)
  | some (.link _) => .isFalse (by simp)
  | none => .isFalse (by simp)

end Item

/-- A file system. A place is told by the names on the way to it from the root. Things stand in
folders alone.
-/
structure Disk where
  item? : List String → Option Item
  current : List String
  root : item? [] = some .folder
  nested : ∀ place name, item? (place ++ [name]) ≠ none → item? place = some .folder

/-- At most this many symbolic links are followed along a path. -/
def mostLinks : Nat := 40

namespace Disk

-----------------------------------------------------------------------------------------
-- Following paths
-----------------------------------------------------------------------------------------

/-- The place that a path starts from: the root, or the given one if the path is relative. -/
def startOf (place : List String) (path : String) : List String :=
  if path.toList.head? = some '/' then [] else place

/-- What stands at a place. -/
def standing (disk : Disk) (place : List String) : Except FileFault Item :=
  match disk.item? place with
  | some item => .ok item
  | none => .error .notFound

/-- The folder at a place is entered, if there is one. -/
def enter (disk : Disk) (place : List String) : Except FileFault Unit :=
  (disk.standing place).bind fun
    | .folder => .ok ()
    | _ => .error .other

/-- What a name stands for in the folder at a place. -/
def entry (disk : Disk) (place : List String) (name : String) : Except FileFault Item :=
  if longestName < name.utf8ByteSize then .error .other else disk.standing (place ++ [name])

/-- The place that the parts of a path lead to. A link at the very end is followed only if it is
asked for.
-/
def lead (disk : Disk) (toEnd : Bool) (links : Nat) (place : List String)
    : List String → Except FileFault (List String)
  | [] => .ok place
  | part :: rest =>
    match disk.enter place with
    | .error fault => .error fault
    | .ok () =>
      if part = "" ∨ part = "." then disk.lead toEnd links place rest
      else if part = ".." then disk.lead toEnd links place.dropLast rest
      else
        match disk.entry place part with
        | .error fault => .error fault
        | .ok (.link target) =>
          if rest = [] ∧ toEnd = false then .ok (place ++ [part])
          else
            match links with
            | 0 => .error .other
            | links + 1 =>
              disk.lead toEnd links (startOf place target)
                (Entry.pathParts target.toList ++ rest)
        | .ok _ => disk.lead toEnd links (place ++ [part]) rest
termination_by parts => (links, parts.length)

/-- A path can be followed if it is not too long and no NUL cuts it short. -/
def isFollowable (path : String) : Bool :=
  !path.toList.contains '\x00' && path.utf8ByteSize ≤ longestPath

/-- The place that a path leads to. -/
def reach (disk : Disk) (toEnd : Bool) (path : String) : Except FileFault (List String) :=
  if path = "" then .error .notFound
  else if isFollowable path then
    disk.lead toEnd mostLinks (startOf disk.current path) (Entry.pathParts path.toList)
  else .error .other

-----------------------------------------------------------------------------------------
-- Calls
-----------------------------------------------------------------------------------------

/-- The content of the file at a path. -/
def read (disk : Disk) (path : String) : Except FileFault ByteArray :=
  ((disk.reach true path).bind disk.standing).bind Item.content

/-- What is seen of what was to be read. -/
def seen : Except FileFault ByteArray → Lookup
  | .ok content => .file content
  | .error .notFound => .missing
  | .error _ => .unreachable

/-- What reading tells of a path. -/
def look (disk : Disk) (path : String) : Lookup := seen (disk.read path)

/-- The file system without what stands at a place, which is not a folder. -/
def erase (disk : Disk) (place : List String) (notFolder : disk.item? place ≠ some .folder)
    : Disk where
  item? other := if other = place then none else disk.item? other
  current := disk.current
  root := by
    have isRoot : [] ≠ place := by
      rintro rfl
      exact notFolder disk.root
    rw [if_neg isRoot, disk.root]
  nested other name isThere := by
    split at isThere
    · exact absurd rfl isThere
    · have isFolder := disk.nested other name isThere
      have apart : other ≠ place := by
        rintro rfl
        exact notFolder isFolder
      rw [if_neg apart, isFolder]

/-- Takes away the file or the link at a place. -/
def remove (disk : Disk) (place : List String) : Except FileFault Disk :=
  if isFolder : disk.item? place = some .folder then .error .other
  else (disk.standing place).map fun _ => disk.erase place isFolder

/-- Takes away the file or the link at a path. Nothing changes if that fails. -/
def unlink (path : String) : StateM Disk (Except FileFault Unit) := fun disk =>
  match (disk.reach false path).bind disk.remove with
  | .ok left => (.ok (), left)
  | .error fault => (.error fault, disk)

-----------------------------------------------------------------------------------------
-- The store
-----------------------------------------------------------------------------------------

/-- Loads the document with a file name from the store at a path. -/
def load (disk : Disk) (folderPath name : String) : Except AutomationError Document :=
  Id.run (Store.loadBy (fun path => pure (disk.look path)) folderPath name)

/-- Deletes the file with a name from the store at a path. -/
def delete (disk : Disk) (folderPath name : String) : Option AutomationError × Disk :=
  Id.run ((Store.deleteBy unlink folderPath name).run disk)

end Disk

end DesktopAutomation
