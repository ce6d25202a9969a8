import Mathlib.Data.List.Basic
import DesktopAutomation.Proofs.Document.RoundTrip
import DesktopAutomation.Proofs.Store.Saving
import DesktopAutomation.Proofs.Store.Shelf

/-! A folder keeps a shelf if its files are the texts of the documents on it. Each call answers on
the folder as it does on the shelf and leaves the folder to keep the changed shelf; so from a folder
that is not there yet and an empty shelf on, the same is seen of both.
-/

namespace DesktopAutomation.Store

-----------------------------------------------------------------------------------------
-- Admissible calls
-----------------------------------------------------------------------------------------

/-- A document that was read from a text, with no doubles among its numbers, and with a name that
leaves room for the staging name.
-/
structure Storable (document : Document) : Prop where
  accepted : ∃ text, Document.read text = .ok document
  integral : ∀ number ∈ document.environment.numbers, number.integer?.isSome = true
  short : document.fileName.utf8ByteSize ≤ 250

/-- A call that saves a storable document, or asks for a plain name that a folder can be asked for.
-/
def Call.Admissible : Call → Prop
  | .save document => Storable document
  | .load name | .delete name => isPlainName name = true ∧ LegalName name
  | .list => True

/-- The text of a storable document reads as the document, for all its numbers are integers. -/
theorem Storable.read_print {document : Document} (storable : Storable document)
    : Document.read document.print = .ok document := by
  obtain ⟨text, accepted⟩ := storable.accepted
  obtain ⟨decoded, valid⟩ := (Document.read_eq_ok_iff ..).mp accepted
  obtain ⟨limited, _⟩ := Document.depth_of_decode? decoded
  refine (Document.read_print_iff (Document.stored_of_decode? decoded)).mpr ⟨valid, limited, ?_⟩
  exact fun number member => JsonNumber.reread?_of_integer (storable.integral number member)

-----------------------------------------------------------------------------------------
-- Folders that keep a shelf
-----------------------------------------------------------------------------------------

/-- A folder keeps a shelf: under the name of each document there is its text, and nothing under any
other name.
-/
structure Keeps (folder : Folder) (shelf : Shelf) : Prop where
  isFolder : folder ≠ .file
  texts
    : ∀ name, (folder.find? name).map (·.look.text?)
      = (shelf.find? name).map fun document => some document.print
  named
    : ∀ name document, shelf.find? name = some document
      → name = document.fileName ∧ Storable document

/-- Before the first document there is no folder, and that keeps the empty shelf. -/
theorem Keeps.initial : Keeps .absent .empty where
  isFolder := by simp
  texts _ := rfl
  named name document found := by simp [NameMap.find?_empty] at found

namespace Keeps
variable {folder : Folder} {entries : NameMap Entry} {shelf : Shelf} {folderPath name : String}

/-- To keep a shelf makes no difference between a missing folder and an empty one. -/
theorem made (keeps : Keeps .absent shelf) : Keeps (.present .empty) shelf where
  isFolder := by simp
  texts := keeps.texts
  named := keeps.named

/-- A name that is not on the shelf stands for nothing in the folder. -/
theorem missing (keeps : Keeps folder shelf) (absent : shelf.find? name = none)
    : folder.find? name = none := by
  have texts := keeps.texts name
  rw [absent, Option.map_none, Option.map_eq_none_iff] at texts
  exact texts

/-- The name of a document on the shelf stands for a file with its text. -/
theorem found (keeps : Keeps folder shelf) {document : Document}
    (isThere : shelf.find? name = some document)
    : ∃ mark content,
        folder.find? name = some (.file mark content)
        ∧ String.fromUTF8? content = some document.print := by
  have texts := keeps.texts name
  rw [isThere, Option.map_some, Option.map_eq_some_iff] at texts
  obtain ⟨entry, isEntry, text⟩ := texts
  cases entry with
  | file mark content => exact ⟨mark, content, isEntry, text⟩
  | folder _ => simp [Entry.look, Lookup.text?] at text

/-- Folder and shelf have the same names. -/
theorem isSome_eq (keeps : Keeps folder shelf) (name : String)
    : (folder.find? name).isSome = (shelf.find? name).isSome := by
  have texts := congrArg Option.isSome (keeps.texts name)
  rwa [Option.isSome_map, Option.isSome_map] at texts

theorem names_eq (keeps : Keeps folder shelf) : folder.entries.names = shelf.names :=
  NameMap.names_eq_of_isSome_eq keeps.isSome_eq

/-- What is seen of the names of the folder are those of the shelf. -/
theorem names?_eq (keeps : Keeps folder shelf) : names? folder = some shelf.names := by
  rw [← keeps.names_eq]
  cases folder with
  | absent => rfl
  | file => exact absurd rfl keeps.isFolder
  | present _ => rfl

-----------------------------------------------------------------------------------------
-- Looking
-----------------------------------------------------------------------------------------

/-- Loading a document from the folder finds the one on the shelf, or that there is none. -/
theorem load_eq (keeps : Keeps folder shelf) (plain : isPlainName name = true)
    (legal : LegalName name)
    : load folderPath folder name = shelf.load name := by
  rw [load, if_pos plain, Folder.look_eq keeps.isFolder legal, Shelf.load]
  cases isThere : shelf.find? name with
  | none => rw [keeps.missing isThere]; rfl
  | some document =>
      obtain ⟨mark, content, isFile, text⟩ := keeps.found isThere
      have again := (keeps.named name document isThere).2.read_print
      simp [isFile, Entry.look, documentOf, Lookup.text?, text, again, Except.mapError]

/-- The names of all documents are legal and end as listings ask for. -/
theorem listable (keeps : Keeps folder shelf) {document : Document}
    (isThere : shelf.find? name = some document)
    : hasDocumentEnding name = true ∧ LegalName name := by
  obtain ⟨rfl, storable⟩ := keeps.named name document isThere
  have isName := isDocumentName_fileNameOf document.head.title
  exact ⟨isName.ending, isName.legal (Nat.le_trans storable.short (by decide))⟩

/-- A listing of the folder shows each document of the shelf. -/
theorem stored?_eq (keeps : Keeps folder shelf) {document : Document}
    (isThere : shelf.find? name = some document)
    : stored? name (folder.look name) = some ⟨name, document.head⟩ := by
  obtain ⟨mark, content, isFile, text⟩ := keeps.found isThere
  have again := (keeps.named name document isThere).2.read_print
  rw [Folder.look_eq keeps.isFolder (keeps.listable isThere).2, isFile]
  simp [stored?, Entry.look, Lookup.text?, text, again]

/-- The folder is listed as the shelf is. -/
theorem list_eq (keeps : Keeps folder shelf) : list folderPath folder = .ok shelf.list := by
  have all : namesOf folderPath folder.lookSelf
      = .ok (folder.entries.names.filter hasDocumentEnding) := by
    cases folder with
    | absent => rfl
    | file => exact absurd rfl keeps.isFolder
    | present _ => rfl
  have documents : shelf.names.filter hasDocumentEnding = shelf.names := by
    refine List.filter_eq_self.mpr fun name member => ?_
    obtain ⟨document, isThere⟩ :=
      Option.isSome_iff_exists.mp ((shelf.mem_names_iff name).mp member)
    exact (keeps.listable isThere).1
  have shown
      : shelf.entries.filterMap (fun entry => stored? entry.1 (folder.look entry.1))
        = shelf.list :=
    List.filterMap_eq_map_iff_forall_eq_some.mpr fun (_, _) member =>
      keeps.stored?_eq ((shelf.find?_eq_some_iff ..).mpr member)
  rw [list, all, keeps.names_eq, documents, ← shown]
  exact congrArg Except.ok List.filterMap_map

-----------------------------------------------------------------------------------------
-- Changing
-----------------------------------------------------------------------------------------

/-- An entry and a document may both be dropped. -/
theorem erase (keeps : Keeps (.present entries) shelf) (name : String)
    : Keeps (.present (entries.erase name)) (shelf.erase name) where
  isFolder := by simp
  texts other := by
    have texts := keeps.texts other
    simp only [Folder.find?, Folder.entries, NameMap.find?_erase] at texts ⊢
    split
    · rfl
    · exact texts
  named other document found := by
    rw [NameMap.find?_erase] at found
    split at found
    · cases found
    · exact keeps.named other document found

/-- A document and a file with its text may be added. -/
theorem insert (keeps : Keeps (.present entries) shelf) {document : Document}
    (storable : Storable document) (mark : Nat)
    : Keeps (.present (entries.insert document.fileName (.file mark document.print.toUTF8)))
        (shelf.insert document.fileName document) where
  isFolder := by simp
  texts other := by
    have texts := keeps.texts other
    simp only [Folder.find?, Folder.entries, NameMap.find?_insert] at texts ⊢
    split
    · exact congrArg some (Text.fromUTF8?_toUTF8 document.print)
    · exact texts
  named other added found := by
    rw [NameMap.find?_insert] at found
    split at found
    · next same =>
      obtain rfl := Option.some.inj found
      exact ⟨same, storable⟩
    · exact keeps.named other added found

/-- Deleting does on the folder as it does on the shelf, which does not change if the name is not
there.
-/
theorem delete_step (keeps : Keeps folder shelf) (folderPath : String)
    (plain : isPlainName name = true) (legal : LegalName name)
    : ∃ left, delete folderPath name folder = (none, left) ∧ Keeps left (shelf.erase name) := by
  cases isThere : shelf.find? name with
  | none =>
      have unlinked := Folder.unlink_missing keeps.isFolder legal (keeps.missing isThere)
      refine ⟨folder, by rw [delete, if_pos plain, unlinked], ?_⟩
      rw [NameMap.erase_of_missing isThere]
      exact keeps
  | some document =>
      obtain ⟨mark, content, isFile, _⟩ := keeps.found isThere
      cases folder with
      | absent => cases isFile
      | file => exact absurd rfl keeps.isFolder
      | present entries =>
          have isFile : entries.find? name = some (.file mark content) := isFile
          refine ⟨.present (entries.erase name), ?_, keeps.erase name⟩
          rw [delete, if_pos plain, Folder.unlink_file legal isFile]

/-- What saving a storable document does to a folder that keeps a shelf. -/
theorem save_present (keeps : Keeps (.present entries) shelf) {document : Document}
    (storable : Storable document)
    : save folderPath document (.present entries)
      = if entries.contains document.fileName then
          (.error (.conflict (.fileExists document.fileName)), .present entries)
        else
          (.ok ⟨document.fileName, document.head⟩, .present (entries.insert document.fileName
            (.file (Folder.freshMark entries) document.print.toUTF8))) := by
  have isName := isDocumentName_fileNameOf document.head.title
  have short := storable.short
  have limit : longestName = 255 := rfl
  have legal : LegalName (orderOf folderPath document).fileName :=
    isName.legal (by rw [limit]; exact Nat.le_trans short (by decide))
  have staging : LegalName (orderOf folderPath document).stagingName := by
    refine IsDocumentName.legal_stagingName isName ?_
    rw [limit]
    exact Nat.add_le_add_right short 5
  have differs := isName.ne_stagingName (orderOf folderPath document)
  -- All files of the folder are documents, and the staging name is not that of a document.
  have free : entries.find? (orderOf folderPath document).stagingName = none :=
    keeps.missing <| Option.eq_none_iff_forall_ne_some.mpr fun other isThere => by
      obtain ⟨same, _⟩ := keeps.named _ other isThere
      exact (isDocumentName_fileNameOf other.head.title).ne_stagingName _ same.symm
  rw [save, SaveOrder.run_present legal staging differs free, orderOf]
  by_cases taken : entries.contains document.fileName = true
  · rw [if_pos taken, if_pos taken]
  · rw [if_neg taken, if_neg taken]

/-- Saving does on the folder as it does on the shelf. -/
theorem save_step (keeps : Keeps folder shelf) (folderPath : String) {document : Document}
    (storable : Storable document)
    : (save folderPath document folder).1 = (shelf.save document).1
      ∧ Keeps (save folderPath document folder).2 (shelf.save document).2 := by
  have inPresent {entries : NameMap Entry} (keeps : Keeps (.present entries) shelf)
      : (save folderPath document (.present entries)).1 = (shelf.save document).1
        ∧ Keeps (save folderPath document (.present entries)).2 (shelf.save document).2 := by
    have sameTaken : entries.contains document.fileName = shelf.contains document.fileName :=
      keeps.isSome_eq document.fileName
    rw [keeps.save_present storable, Shelf.save, ← sameTaken]
    split
    · exact ⟨rfl, keeps⟩
    · exact ⟨rfl, keeps.insert storable _⟩
  cases folder with
  | absent =>
      have makesFolder
          : save folderPath document .absent = save folderPath document (.present .empty) := by
        rw [save, save, SaveOrder.run_absent]
      rw [makesFolder]
      exact inPresent keeps.made
  | file => exact absurd rfl keeps.isFolder
  | present entries => exact inPresent keeps

/-- Each call answers on the folder as on the shelf and leaves the one to keep the other. -/
theorem step (keeps : Keeps folder shelf) (folderPath : String) {call : Call}
    (admissible : call.Admissible)
    : (call.onFolder folderPath folder).1 = (call.onShelf shelf).1
      ∧ Keeps (call.onFolder folderPath folder).2 (call.onShelf shelf).2 := by
  cases call with
  | save document =>
      obtain ⟨answer, kept⟩ := keeps.save_step folderPath admissible
      exact ⟨congrArg Answer.saved answer, kept⟩
  | load name =>
      obtain ⟨plain, legal⟩ := admissible
      exact ⟨congrArg Answer.loaded (keeps.load_eq plain legal), keeps⟩
  | list => exact ⟨congrArg Answer.listed keeps.list_eq, keeps⟩
  | delete name =>
      obtain ⟨plain, legal⟩ := admissible
      obtain ⟨left, deleted, kept⟩ := keeps.delete_step folderPath plain legal
      rw [Call.onFolder, deleted]
      exact ⟨rfl, kept⟩

/-- From a folder that keeps a shelf on, the same is seen of both; by induction over the calls, each
of which leaves the folder to keep the shelf.
-/
theorem observe_eq (keeps : Keeps folder shelf) (folderPath : String) {calls : List Call}
    (admissible : ∀ call ∈ calls, call.Admissible)
    : observe (Call.onFolder folderPath) names? folder calls
      = observe Call.onShelf (fun shelf => some shelf.names) shelf calls := by
  induction calls generalizing folder shelf with
  | nil => rfl
  | cons call rest ih =>
      obtain ⟨here, behind⟩ := List.forall_mem_cons.mp admissible
      obtain ⟨answer, kept⟩ := keeps.step folderPath here
      rw [observe_cons, observe_cons, answer, kept.names?_eq, ih kept behind]

end Keeps

-----------------------------------------------------------------------------------------
-- All calls
-----------------------------------------------------------------------------------------

/-- Where there is no folder yet, calls on the store answer as those on an empty shelf do. Behind
each of them the folder holds the names on the shelf, and listings are in the order of the bytes of
the names.
-/
theorem observe_onFolder (folderPath : String) (calls : List Call)
    (admissible : ∀ call ∈ calls, call.Admissible)
    : observe (Call.onFolder folderPath) names? .absent calls
        = observe Call.onShelf (fun shelf => some shelf.names) .empty calls
      ∧ ∀ stored names,
          (.listed (.ok stored), names) ∈ observe (Call.onFolder folderPath) names? .absent calls
          → stored.Pairwise fun stored other =>
              Text.bytes stored.fileName < Text.bytes other.fileName := by
  have same := Keeps.initial.observe_eq folderPath admissible
  refine ⟨same, fun stored names seen => ?_⟩
  rw [same] at seen
  exact sorted_of_observe_onShelf seen

/-- The leap day of a year, at noon. -/
def leapNoon : Timestamp := ⟨⟨2024, 2, 29, 12, 0, 0, 0⟩, by decide⟩

/-- A document that waits for a moment. -/
def waiting (title : String) : Document :=
  ⟨⟨title, leapNoon⟩, ⟨[.action ⟨1⟩ (.sleep 5)]⟩, .empty⟩

/-- A document that waits is valid, whatever its title. -/
theorem valid_waiting (title : String) : (waiting title).Valid := by
  have walked : (waiting title).steps.toList = [.action ⟨1⟩ (.sleep 5)] := by
    rw [StepTree.toList, walk_eq_listingOf]
    rfl
  constructor
  · rw [walked]
    decide
  · rw [walked]
    decide
  · rw [walked]
    decide
  · exact fun _ member => absurd member List.not_mem_nil

/-- A document that waits can be stored if its name is short enough. -/
theorem storable_waiting {title : String} (short : (waiting title).fileName.utf8ByteSize ≤ 250)
    : Storable (waiting title) where
  accepted := by
    refine ⟨(waiting title).print, (Document.read_print_iff Environment.stored_empty).mpr ?_⟩
    refine ⟨valid_waiting title, ?_, fun number member => absurd member List.not_mem_nil⟩
    exact Nat.le_of_ble_eq_true rfl
  integral number member := absurd member List.not_mem_nil
  short := short

/-- Two titles with one slug: the second document is not saved, nothing is left in the end. -/
theorem observe_onFolder_sameName
    : observe (Call.onFolder "store") names? .absent
          [.save (waiting "Report"), .save (waiting "report!"), .list, .load "report.json",
            .delete "report.json", .delete "report.json", .load "report.json"]
        = [(.saved (.ok ⟨"report.json", ⟨"Report", leapNoon⟩⟩), some ["report.json"]),
          (.saved (.error (.conflict (.fileExists "report.json"))), some ["report.json"]),
          (.listed (.ok [⟨"report.json", ⟨"Report", leapNoon⟩⟩]), some ["report.json"]),
          (.loaded (.ok (waiting "Report")), some ["report.json"]),
          (.deleted none, some []),
          (.deleted none, some []),
          (.loaded (.error (.notFound (.automation "report.json"))), some [])] := by
  have first : (waiting "Report").fileName = "report.json" := by
    show fileNameOf "Report" = "report.json"
    decide +kernel
  have second : (waiting "report!").fileName = "report.json" := by
    show fileNameOf "report!" = "report.json"
    decide +kernel
  have asked : isPlainName "report.json" = true ∧ LegalName "report.json" :=
    ⟨by decide, by decide, by decide⟩
  refine (observe_onFolder "store" _ ?_).1.trans ?_
  · simp only [List.forall_mem_cons]
    exact ⟨storable_waiting (by rw [first]; decide), storable_waiting (by rw [second]; decide),
      trivial, asked, asked, asked, asked, List.forall_mem_nil _⟩
  · simp only [observe, Call.onShelf, Shelf.save, first, second]
    rfl

end DesktopAutomation.Store
