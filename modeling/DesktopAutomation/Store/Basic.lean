import DesktopAutomation.Document.Reading
import DesktopAutomation.Store.Saving

/-!
The store of automations: a folder with one file for each document, named after its title. Only
plain names of the folder itself are looked up. Listings show the files that hold valid documents.
-/

namespace DesktopAutomation

/-- What a listing shows of a stored automation. -/
structure StoredAutomation where
  fileName : String
  head : DocumentMeta
deriving DecidableEq

/-- The last name on a path. Slashes side by side count as one, a single dot stands for nothing, and
there is none if the path leads upwards at its end.
-/
def lastName? (path : String) : Option String :=
  ((Text.split path "/").filter fun name => name != "" && name != ".").getLast?.filter (· != "..")

/-- A name of an entry of the folder itself, and not a path: it is the last name on itself. -/
def isPlainName (name : String) : Bool := name != "" && lastName? name == some name

/-- The name ends as those of documents do, with something before the ending. -/
def hasDocumentEnding (name : String) : Bool :=
  ".json".toList.isSuffixOf name.toList && name != ".json"

namespace Store

-----------------------------------------------------------------------------------------
-- From what is found
-----------------------------------------------------------------------------------------

/-- The document found under a name in a folder at a path. -/
def documentOf (folderPath name : String) (found : Lookup) : Except AutomationError Document :=
  match found with
  | .missing => .error (.notFound (.automation name))
  | found =>
    match found.text? with
    | none => .error (.storage (.io (joinPath folderPath name)))
    | some text => (Document.read text).mapError .document

/-- The names of documents in a folder at a path; none if there is no folder. -/
def namesOf (folderPath : String) (found : Lookup) : Except AutomationError (List String) :=
  match found with
  | .missing => .ok []
  | .folder names => .ok (names.filter hasDocumentEnding)
  | _ => .error (.storage (.io folderPath))

/-- What a listing shows of the file with a name; nothing if it holds no valid document. -/
def stored? (name : String) (found : Lookup) : Option StoredAutomation :=
  match found.text?.map Document.read with
  | some (.ok document) => some ⟨name, document.head⟩
  | _ => none

-----------------------------------------------------------------------------------------
-- At paths
-----------------------------------------------------------------------------------------

section Paths

variable {m : Type → Type} [Monad m]

/-- Loads the document with a file name from a folder at a path. What is found at paths is told by
the given call.
-/
def loadBy (look : String → m Lookup) (folderPath name : String)
    : m (Except AutomationError Document) :=
  if isPlainName name then documentOf folderPath name <$> look (joinPath folderPath name)
  else pure (.error (.storage (.invalidFileName name)))

/-- The error of deleting a file. That there is none is no error. -/
def deletionError? (folderPath name : String) : Except FileFault Unit → Option AutomationError
  | .ok () | .error .notFound => none
  | .error _ => some (.storage (.io (joinPath folderPath name)))

/-- Deletes the file with a name in a folder at a path. Files are dropped at paths by the given call.
-/
def deleteBy (unlink : String → m (Except FileFault Unit)) (folderPath name : String)
    : m (Option AutomationError) :=
  if isPlainName name then deletionError? folderPath name <$> unlink (joinPath folderPath name)
  else pure (some (.storage (.invalidFileName name)))

end Paths

-----------------------------------------------------------------------------------------
-- On a folder
-----------------------------------------------------------------------------------------

/-- The order to save a document. -/
def orderOf (folderPath : String) (document : Document) : SaveOrder :=
  ⟨folderPath, document.fileName, document.print.toUTF8⟩

/-- Saves a document under its name, if this name is free. -/
def save (folderPath : String) (document : Document) (folder : Folder)
    : Except AutomationError StoredAutomation × Folder :=
  let (error?, changed) := (orderOf folderPath document).run folder
  match error? with
  | some error => (.error error, changed)
  | none => (.ok ⟨document.fileName, document.head⟩, changed)

/-- Loads the document with a file name. -/
def load (folderPath : String) (folder : Folder) (name : String)
    : Except AutomationError Document :=
  if isPlainName name then documentOf folderPath name (folder.look name)
  else .error (.storage (.invalidFileName name))

/-- Lists all valid documents, in the order of their names. -/
def list (folderPath : String) (folder : Folder)
    : Except AutomationError (List StoredAutomation) :=
  (namesOf folderPath folder.lookSelf).map fun names =>
    names.filterMap fun name => stored? name (folder.look name)

/-- Deletes the file with a name. That there is none is no error. -/
def delete (folderPath : String) (name : String) (folder : Folder)
    : Option AutomationError × Folder :=
  if isPlainName name then
    match folder.unlink name with
    | .ok left => (none, left)
    | .error .notFound => (none, folder)
    | .error _ => (some (.storage (.io (joinPath folderPath name))), folder)
  else
    (some (.storage (.invalidFileName name)), folder)

end Store

end DesktopAutomation
