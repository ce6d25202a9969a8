import DesktopAutomation.Proofs.Store.Race
import Mathlib.Data.List.Basic

/-! What a single saving leaves behind in a folder. Only the name of the document and its staging
name change, a document is never stored over anything, and a staging file never stays; unless a
staging file is left over that has another name, too, for then the text is written over what stands
there. Where the staging name cannot be written, which is longer than that of the document, nothing
is changed.
-/

namespace DesktopAutomation

-----------------------------------------------------------------------------------------
-- Savings that cannot stage
-----------------------------------------------------------------------------------------

/-- A saving that cannot stage its text changes nothing. -/
theorem SaveOrder.run_blocked {order : SaveOrder} {entries : NameMap Entry}
    (blocked : Race.Blocked order.stagingName (.present entries))
    : order.run (.present entries)
      = (some (order.ioError order.stagingName), .present entries) := by
  obtain ⟨_, unwritten⟩ := blocked.write order.content
  obtain ⟨_, undropped⟩ := blocked.unlink
  simp only [SaveOrder.run, Saving.callCount, Saving.steps, Saving.step, Folder.make, unwritten,
    undropped]
  rfl

namespace Store

-----------------------------------------------------------------------------------------
-- What may change
-----------------------------------------------------------------------------------------

variable {folderPath : String} {document : Document}

section Present
variable {entries : NameMap Entry}

end Present

/-- What is told of a name that a folder can hold: the document is saved under it into an empty
folder.
-/
def SavesLegal (folderPath : String) (document : Document) : Prop :=
  document.fileName.utf8ByteSize ≤ longestName
  → save folderPath document (.present .empty)
    = (.ok ⟨document.fileName, document.head⟩,
        .present (NameMap.empty.insert document.fileName (.file 0 document.print.toUTF8)))

/-- A document whose name leaves room for the staging name is saved into an empty folder. -/
theorem save_empty_of_short
    (short : document.fileName.utf8ByteSize + 5 ≤ longestName)
    : save folderPath document (.present .empty)
      = (.ok ⟨document.fileName, document.head⟩,
          .present (NameMap.empty.insert document.fileName (.file 0 document.print.toUTF8))) := by
  let order := orderOf folderPath document
  have isName : IsDocumentName order.fileName := isDocumentName_fileNameOf document.head.title
  have legal : LegalName order.fileName := isName.legal (Nat.le_trans (Nat.le_add_right ..) short)
  have ran
      : order.run (.present .empty)
        = (none, .present (NameMap.empty.insert order.fileName (.file 0 order.content))) := by
    rw [SaveOrder.run_present legal (isName.legal_stagingName short)
      (isName.ne_stagingName order) (NameMap.find?_empty _), NameMap.contains, NameMap.find?_empty,
      if_neg (by simp), Folder.freshMark_empty]
  rw [save, ran]
  dsimp only [order, orderOf]

/-- A document whose name leaves no room fails at the staging name, and the folder stays empty. -/
theorem save_empty_of_long (long : longestName < document.fileName.utf8ByteSize + 5)
    : save folderPath document (.present .empty)
      = (.error ((orderOf folderPath document).ioError (orderOf folderPath document).stagingName),
          .present .empty) := by
  have blocked
      : Race.Blocked (orderOf folderPath document).stagingName (.present .empty) := by
    refine .long ?_
    rwa [SaveOrder.utf8ByteSize_stagingName]
  rw [save, SaveOrder.run_blocked blocked]

/-- So a document is not saved under a legal name that leaves no room. -/
theorem not_savesLegal_of_long (long : longestName < document.fileName.utf8ByteSize + 5)
    (legal : document.fileName.utf8ByteSize ≤ longestName)
    : ¬SavesLegal folderPath document := by
  intro saves
  have succeeds := congrArg Prod.fst ((save_empty_of_long long).symm.trans (saves legal))
  cases succeeds

/-- A document is saved into an empty folder if its name leaves room for the five more bytes of the
staging name, even though the folder could hold the longer names as well.
-/
theorem savesLegal_iff (folderPath : String) (document : Document)
    : (SavesLegal folderPath document
        ↔ ¬(longestName < document.fileName.utf8ByteSize + 5
          ∧ document.fileName.utf8ByteSize ≤ longestName))
      ∧ save folderPath document (.present .empty)
        = if document.fileName.utf8ByteSize + 5 ≤ longestName then
            (.ok ⟨document.fileName, document.head⟩,
              .present (NameMap.empty.insert document.fileName (.file 0 document.print.toUTF8)))
          else
            (.error (.storage (.io (joinPath folderPath ("." ++ document.fileName ++ ".tmp")))),
              .present .empty) := by
  by_cases short : document.fileName.utf8ByteSize + 5 ≤ longestName
  · refine ⟨iff_of_true (fun _ => save_empty_of_short short) (by omega), ?_⟩
    rw [if_pos short, save_empty_of_short short]
  · have long := Nat.lt_of_not_le short
    refine ⟨?_, by rw [if_neg short, save_empty_of_long long]; rfl⟩
    constructor
    · exact fun saves fits => not_savesLegal_of_long long fits.2 saves
    · exact fun fits legal => absurd ⟨long, legal⟩ fits

/-- A title of letters alone is its own slug. -/
theorem slugify_replicate (count : Nat)
    : Text.slugify (String.ofList (List.replicate count 'a'))
      = String.ofList (List.replicate count 'a') := by
  have kept : Text.slugBase? 'a' = some 'a' := by decide +kernel
  have written : Text.slugChar 'a' = 'a' := by decide
  have noSeparator : Text.isSeparator 'a' = false := by decide
  rw [Text.slugify, String.toList_ofList, List.filterMap_replicate_of_some kept, Text.trimEnds,
    Text.trimEnd, List.dropWhile_replicate]
  simp [noSeparator, written]

/-- A title of 246 letters: its name of 251 bytes is legal, but nothing is saved under it. -/
theorem not_savesLegal_246
    : ¬SavesLegal "store" (Race.titled (String.ofList (List.replicate 246 'a'))) := by
  have size
      : (Race.titled (String.ofList (List.replicate 246 'a'))).fileName.utf8ByteSize = 251 := by
    rw [Document.fileName, fileNameOf, Race.titled, slugify_replicate]
    decide +kernel
  refine not_savesLegal_of_long ?_ ?_ <;> rw [size] <;> decide

end Store

end DesktopAutomation
