import DesktopAutomation.NameMap

/-!
Files and folders. A file may have several names; they share its content, and a mark tells that they
do. Paths lead through folders, from a folder that relative paths start in.
-/

namespace DesktopAutomation

/-- What a name stands for. All names of one file carry the same mark. -/
inductive Entry
  | file (mark : Nat) (content : ByteArray)
  | folder (entries : List (String × Entry))

/-- What is found at a path: nothing, something that cannot be reached, a file, or a folder with its
names.
-/
inductive Lookup
  | missing
  | unreachable
  | file (content : ByteArray)
  | folder (names : List String)

namespace Lookup

/-- Something is there. -/
def isThere : Lookup → Bool
  | .file _ | .folder _ => true
  | .missing | .unreachable => false

/-- The text of a file. -/
def text? : Lookup → Option String
  | .file content => String.fromUTF8? content
  | _ => none

end Lookup

/-- The longest name that a file or a folder may have, in bytes. -/
def longestName : Nat := 255

/-- The longest path that can be followed, in bytes. -/
def longestPath : Nat := 4095

/-- The path of a name in a folder. -/
def joinPath (folder name : String) : String :=
  if folder = "" ∨ folder.toList.getLast? = some '/' then folder ++ name else folder ++ "/" ++ name

namespace Entry

/-- What is seen of an entry. -/
def look : Entry → Lookup
  | .file _ content => .file content
  | .folder entries => .folder (entries.map (·.1))

/-- Follows the parts of a path from an entry. `outer` are the folders around it, the innermost
first; the outermost folder lies in itself.
-/
def follow (outer : List Entry) (entry : Entry) : List String → Lookup
  | [] => entry.look
  | part :: rest =>
    match entry with
    | .file .. => .unreachable
    | .folder entries =>
      if part = "" ∨ part = "." then entry.follow outer rest
      else if part = ".." then
        match outer with
        | parent :: further => parent.follow further rest
        | [] => entry.follow [] rest
      else if longestName < part.utf8ByteSize then .unreachable
      else
        match entries.lookup part with
        | some next => next.follow (entry :: outer) rest
        | none => .missing

/-- The parts of a path, which slashes separate. -/
def pathParts (path : List Char) : List String :=
  path.foldr
    (fun c parts =>
      match c, parts with
      | '/', parts => "" :: parts
      | c, part :: rest => (String.singleton c ++ part) :: rest
      | c, [] => [String.singleton c])
    [""]

/-- A folder of which no entries are known, as those around the folder that paths start in. -/
def unknownFolder : Entry := .folder []

/-- The root of all folders: the folders that are there by convention, and the file among the
devices that is always empty.
-/
def root : Entry :=
  let customary :=
    ["bin", "etc", "home", "lib", "opt", "proc", "root", "run", "sbin", "sys", "tmp", "usr", "var"]
  .folder (("dev", .folder [("null", .file 0 .empty)]) :: customary.map (·, unknownFolder))

/-- What is found at a path, from the root or from the given entry. The root does not lead to this
entry.
-/
def lookAt (entry : Entry) (path : String) : Lookup :=
  if path = "" then .missing
  else if longestPath < path.utf8ByteSize then .unreachable
  else if path.toList.head? = some '/' then root.follow [] (pathParts path.toList)
  else entry.follow [unknownFolder] (pathParts path.toList)

/-- Puts an entry at a path of names, with the folders on the way. -/
def put (new : Entry) : (path : List String) → Entry → Entry
  | [], _ => new
  | name :: rest, .folder entries =>
    .folder (insertSorted name (put new rest ((entries.lookup name).getD (.folder []))) entries)
  | _ :: _, other => other

end Entry

end DesktopAutomation
