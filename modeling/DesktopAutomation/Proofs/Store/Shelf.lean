import DesktopAutomation.Proofs.Text.Bytes
import DesktopAutomation.Store.Basic

/-! Calls on the store, and what is seen of them one after the other: on a folder, and on a shelf.
A shelf is a map from file names to documents, on which calls have their plain meaning.
-/

namespace DesktopAutomation.Store

-----------------------------------------------------------------------------------------
-- Calls
-----------------------------------------------------------------------------------------

/-- A call on the store. -/
inductive Call
  | save (document : Document)
  | load (name : String)
  | list
  | delete (name : String)

/-- What a call answers. -/
inductive Answer
  | saved (result : Except AutomationError StoredAutomation)
  | loaded (result : Except AutomationError Document)
  | listed (result : Except AutomationError (List StoredAutomation))
  | deleted (error? : Option AutomationError)

/-- A call on the store in a folder. -/
def Call.onFolder (folderPath : String) (folder : Folder) : Call → Answer × Folder
  | .save document =>
    let (result, changed) := Store.save folderPath document folder
    (.saved result, changed)
  | .load name => (.loaded (Store.load folderPath folder name), folder)
  | .list => (.listed (Store.list folderPath folder), folder)
  | .delete name =>
    let (error?, changed) := Store.delete folderPath name folder
    (.deleted error?, changed)

/-- What is seen of calls, one after the other: each answer, and the names that are there behind
the call.
-/
def observe {σ : Type} (perform : σ → Call → Answer × σ) (names? : σ → Option (List String))
    : σ → List Call → List (Answer × Option (List String))
  | _, [] => []
  | state, call :: rest =>
    let (answer, changed) := perform state call
    (answer, names? changed) :: observe perform names? changed rest

theorem observe_cons {σ : Type} (perform : σ → Call → Answer × σ)
    (names? : σ → Option (List String)) (state : σ) (call : Call) (rest : List Call)
    : observe perform names? state (call :: rest)
      = ((perform state call).1, names? (perform state call).2)
        :: observe perform names? (perform state call).2 rest := rfl

/-- The names in a folder. A missing folder holds none; a file in its place is no folder. -/
def names? : Folder → Option (List String)
  | .absent => some []
  | .file => none
  | .present entries => some entries.names

-----------------------------------------------------------------------------------------
-- Shelves
-----------------------------------------------------------------------------------------

/-- Documents by their file names. -/
abbrev Shelf := NameMap Document

namespace Shelf

/-- Adds a document, if its name is free. -/
def save (document : Document) (shelf : Shelf) : Except AutomationError StoredAutomation × Shelf :=
  if shelf.contains document.fileName then
    (.error (.conflict (.fileExists document.fileName)), shelf)
  else
    (.ok ⟨document.fileName, document.head⟩, shelf.insert document.fileName document)

/-- The document with a name. -/
def load (shelf : Shelf) (name : String) : Except AutomationError Document :=
  match shelf.find? name with
  | some document => .ok document
  | none => .error (.notFound (.automation name))

/-- The names and heads of all documents, in the order of the names. -/
def list (shelf : Shelf) : List StoredAutomation :=
  shelf.entries.map fun (name, document) => ⟨name, document.head⟩

end Shelf

/-- A call on a shelf. -/
def Call.onShelf (shelf : Shelf) : Call → Answer × Shelf
  | .save document =>
    let (result, changed) := shelf.save document
    (.saved result, changed)
  | .load name => (.loaded (shelf.load name), shelf)
  | .list => (.listed (.ok shelf.list), shelf)
  | .delete name => (.deleted none, shelf.erase name)

/-- A shelf is listed in the order of the bytes of its names. -/
theorem Shelf.list_sorted (shelf : Shelf)
    : shelf.list.Pairwise fun stored other =>
        Text.bytes stored.fileName < Text.bytes other.fileName :=
  List.pairwise_map.mpr <| shelf.sorted.imp (Text.lt_iff_bytes_lt ..).mp

theorem sorted_of_observe_onShelf {shelf : Shelf} {calls : List Call}
    {stored : List StoredAutomation} {names : Option (List String)}
    (seen : (.listed (.ok stored), names)
      ∈ observe Call.onShelf (fun shelf => some shelf.names) shelf calls)
    : stored.Pairwise fun stored other =>
        Text.bytes stored.fileName < Text.bytes other.fileName := by
  induction calls generalizing shelf with
  | nil => cases seen
  | cons call rest ih =>
      rw [observe_cons] at seen
      rcases List.mem_cons.mp seen with here | behind
      · obtain ⟨answer, _⟩ := Prod.mk.inj here
        cases call with
        | list =>
            obtain rfl := Except.ok.inj (Answer.listed.inj answer)
            exact shelf.list_sorted
        | _ => cases answer
      · exact ih behind

end DesktopAutomation.Store
