import DesktopAutomation.Proofs.NameMap
import DesktopAutomation.Proofs.Store.Folder

/-! What a saving does to a folder in which its text can be staged. The staging file comes and goes,
so all that is left is the file with the final name, and nothing if this name was taken.
-/

namespace DesktopAutomation

namespace Saving
variable {order : SaveOrder} {entries : NameMap Entry}

/-- The text is staged in a new file if the staging name is free. -/
theorem step_staging (staging : LegalName order.stagingName)
    (free : entries.find? order.stagingName = none)
    : Saving.staging.step order (.present entries)
      = (.publishing, .present
          (entries.insert order.stagingName (.file (Folder.freshMark entries) order.content))) := by
  rw [step, Folder.write_free staging free]

/-- The text is staged in the file that has the staging name, under all names of this file. -/
theorem step_staging_over (staging : LegalName order.stagingName) {mark : Nat} {old : ByteArray}
    (staged : entries.find? order.stagingName = some (.file mark old))
    : Saving.staging.step order (.present entries)
      = (.publishing, .present (Folder.setContent mark order.content entries)) := by
  rw [step, Folder.write_file staging staged]

/-- Without a staging file nothing can be published. -/
theorem step_publishing_missing (staging : LegalName order.stagingName)
    (missing : entries.find? order.stagingName = none)
    : Saving.publishing.step order (.present entries)
      = (.discarding (some (order.ioError order.fileName)), .present entries) := by
  rw [step, Folder.link_missing staging missing]

/-- Nothing is published under a name that is taken. -/
theorem step_publishing_taken (legal : LegalName order.fileName)
    (staging : LegalName order.stagingName) {mark : Nat} {content : ByteArray}
    (staged : entries.find? order.stagingName = some (.file mark content))
    (taken : entries.contains order.fileName = true)
    : Saving.publishing.step order (.present entries)
      = (.discarding (some (.conflict (.fileExists order.fileName))), .present entries) := by
  rw [step, Folder.link_file staging legal staged, if_pos taken]

/-- The staging file gets the final name if this is free. -/
theorem step_publishing_free (legal : LegalName order.fileName)
    (staging : LegalName order.stagingName) {mark : Nat} {content : ByteArray}
    (staged : entries.find? order.stagingName = some (.file mark content))
    (free : entries.contains order.fileName = false)
    : Saving.publishing.step order (.present entries)
      = (.discarding none, .present (entries.insert order.fileName (.file mark content))) := by
  rw [step, Folder.link_file staging legal staged, if_neg (Bool.eq_false_iff.mp free)]

/-- At last the staging name is dropped. -/
theorem step_discarding (staging : LegalName order.stagingName) {mark : Nat} {content : ByteArray}
    (staged : entries.find? order.stagingName = some (.file mark content))
    (outcome : Option AutomationError)
    : (Saving.discarding outcome).step order (.present entries)
      = (.finished outcome, .present (entries.erase order.stagingName)) := by
  rw [step, Folder.unlink_file staging staged]

/-- If the staging name is gone already, there is nothing to drop, and this is no error. -/
theorem step_discarding_missing (staging : LegalName order.stagingName)
    (missing : entries.find? order.stagingName = none) (outcome : Option AutomationError)
    : (Saving.discarding outcome).step order (.present entries)
      = (.finished outcome, .present entries) := by
  have gone : (Folder.present entries).unlink order.stagingName = .error .notFound :=
    Folder.unlink_missing (by simp) staging missing
  rw [step, gone]

/-- The four calls of a saving, one after the other. -/
theorem run_of_calls {folder made written published discarded : Folder}
    {outcome : Option AutomationError}
    (making : Saving.making.step order folder = (.staging, made))
    (staging : Saving.staging.step order made = (.publishing, written))
    (publishing : Saving.publishing.step order written = (.discarding outcome, published))
    (discarding : (Saving.discarding outcome).step order published = (.finished outcome, discarded))
    : order.run folder = (outcome, discarded) := by
  simp only [SaveOrder.run, callCount, steps, making, staging, publishing, discarding]
  rfl

end Saving

namespace SaveOrder

/-- A saving makes the folder that it needs. -/
theorem run_absent (order : SaveOrder) : order.run .absent = order.run (.present .empty) := rfl

/-- The staging file with the text in it: the file that has the staging name, or else a new one. -/
def stagingFile (order : SaveOrder) (entries : NameMap Entry) : Entry :=
  match entries.find? order.stagingName with
  | some (.file mark _) => .file mark order.content
  | _ => .file (Folder.freshMark entries) order.content

/-- The entries of a folder once the text is staged. -/
def staged (order : SaveOrder) (entries : NameMap Entry) : NameMap Entry :=
  match entries.find? order.stagingName with
  | some (.file mark _) => Folder.setContent mark order.content entries
  | _ => entries.insert order.stagingName (order.stagingFile entries)

/-- Once the text is staged, the staging name stands for the file that holds it. -/
theorem find?_staged (order : SaveOrder) (entries : NameMap Entry)
    : (order.staged entries).find? order.stagingName = some (order.stagingFile entries) := by
  rw [staged]
  split
  · next isFile => simp [Folder.find?_setContent, stagingFile, isFile]
  · rw [NameMap.find?_insert, if_pos rfl]

/-- Staging the text neither takes nor frees the final name. -/
theorem contains_staged {order : SaveOrder} (differs : order.fileName ≠ order.stagingName)
    (entries : NameMap Entry)
    : (order.staged entries).contains order.fileName = entries.contains order.fileName := by
  rw [staged, NameMap.contains, NameMap.contains]
  split
  · rw [Folder.find?_setContent, Option.isSome_map]
  · rw [NameMap.find?_insert, if_neg differs]

/-- A saving writes its text to the staging file unless a folder has this name; then the file has
its final name unless this is taken, and in any case not the staging name.
-/
theorem run_staged {order : SaveOrder} {entries : NameMap Entry} (legal : LegalName order.fileName)
    (staging : LegalName order.stagingName) (differs : order.fileName ≠ order.stagingName)
    (noInner : ∀ inner, entries.find? order.stagingName ≠ some (.folder inner))
    : order.run (.present entries)
      = if entries.contains order.fileName then
          (some (.conflict (.fileExists order.fileName)),
            .present ((order.staged entries).erase order.stagingName))
        else
          (none, .present
            (((order.staged entries).insert order.fileName (order.stagingFile entries)).erase
              order.stagingName)) := by
  have written
      : Saving.staging.step order (.present entries)
        = (.publishing, .present (order.staged entries)) := by
    cases found : entries.find? order.stagingName with
    | none => rw [Saving.step_staging staging found, staged, stagingFile, found]
    | some entry =>
        cases entry with
        | file mark old => rw [Saving.step_staging_over staging found, staged, found]
        | folder inner => exact absurd found (noInner inner)
  obtain ⟨mark, isFile⟩ : ∃ mark, order.stagingFile entries = .file mark order.content := by
    rw [stagingFile]
    split <;> exact ⟨_, rfl⟩
  have isStaged := order.find?_staged entries
  rw [isFile] at isStaged ⊢
  have sameTaken := contains_staged differs entries
  cases taken : entries.contains order.fileName with
  | true =>
      have published := Saving.step_publishing_taken legal staging isStaged (sameTaken.trans taken)
      have discarded := Saving.step_discarding staging isStaged
        (some (.conflict (.fileExists order.fileName)))
      exact Saving.run_of_calls rfl written published discarded
  | false =>
      have published := Saving.step_publishing_free legal staging isStaged (sameTaken.trans taken)
      have isLinked
          : ((order.staged entries).insert order.fileName (.file mark order.content)).find?
              order.stagingName
            = some (.file mark order.content) := by
        rw [NameMap.find?_insert, if_neg differs.symm, isStaged]
      have discarded := Saving.step_discarding staging isLinked none
      exact Saving.run_of_calls rfl written published discarded

/-- The folder once the text is written over the staging file, if there is one. The text then stands
under all names of this file.
-/
def overwritten (order : SaveOrder) (folder : Folder) : Folder :=
  match folder.find? order.stagingName, folder.write order.stagingName order.content with
  | some _, .ok written => written
  | _, _ => folder

/-- Without a staging file there is nothing to write over. -/
theorem overwritten_of_missing {order : SaveOrder} {folder : Folder}
    (missing : folder.find? order.stagingName = none)
    : order.overwritten folder = folder := by
  rw [overwritten, missing]

/-- The content of a staging file is set under all names of this file. -/
theorem overwritten_of_file {order : SaveOrder} {entries : NameMap Entry}
    (staging : LegalName order.stagingName) {mark : Nat} {old : ByteArray}
    (isFile : entries.find? order.stagingName = some (.file mark old))
    : order.overwritten (.present entries)
      = .present (Folder.setContent mark order.content entries) := by
  rw [overwritten, Folder.find?_present, isFile, Folder.write_file staging isFile]

/-- Once the staging name is gone, all that shows of the staged text is what it was written over. -/
theorem erase_staged {order : SaveOrder} {entries : NameMap Entry}
    (staging : LegalName order.stagingName)
    (noInner : ∀ inner, entries.find? order.stagingName ≠ some (.folder inner))
    : (order.staged entries).erase order.stagingName
      = (order.overwritten (.present entries)).entries.erase order.stagingName := by
  cases found : entries.find? order.stagingName with
  | none =>
      have unwritten : order.overwritten (.present entries) = .present entries :=
        overwritten_of_missing found
      rw [unwritten, staged, found, Folder.entries]
      refine NameMap.ext_find? fun name => ?_
      simp only [NameMap.find?_erase, NameMap.find?_insert]
      split <;> rfl
  | some entry =>
      cases entry with
      | file mark old => rw [overwritten_of_file staging found, staged, found, Folder.entries]
      | folder inner => exact absurd found (noInner inner)

/-- Apart from what the text is written over, a saving only takes the staging name away, and adds
its file unless its name is taken.
-/
theorem run_open {order : SaveOrder} {entries : NameMap Entry} (legal : LegalName order.fileName)
    (staging : LegalName order.stagingName) (differs : order.fileName ≠ order.stagingName)
    (noInner : ∀ inner, entries.find? order.stagingName ≠ some (.folder inner))
    : let left := (order.overwritten (.present entries)).entries.erase order.stagingName
      order.run (.present entries)
      = if entries.contains order.fileName then
          (some (.conflict (.fileExists order.fileName)), .present left)
        else
          (none, .present (left.insert order.fileName (order.stagingFile entries))) := by
  intro left
  have apart
      : ((order.staged entries).insert order.fileName (order.stagingFile entries)).erase
          order.stagingName
        = ((order.staged entries).erase order.stagingName).insert order.fileName
          (order.stagingFile entries) := NameMap.ext_find? fun name => by
    simp only [NameMap.find?_erase, NameMap.find?_insert]
    grind
  rw [run_staged legal staging differs noInner, apart, erase_staged staging noInner]

/-- A saving adds its file to a folder, or nothing if the name is taken. -/
theorem run_present {order : SaveOrder} {entries : NameMap Entry} (legal : LegalName order.fileName)
    (staging : LegalName order.stagingName) (differs : order.fileName ≠ order.stagingName)
    (free : entries.find? order.stagingName = none)
    : order.run (.present entries)
      = if entries.contains order.fileName then
          (some (.conflict (.fileExists order.fileName)), .present entries)
        else
          (none, .present
            (entries.insert order.fileName (.file (Folder.freshMark entries) order.content))) := by
  have noInner : ∀ inner, entries.find? order.stagingName ≠ some (.folder inner) := by simp [free]
  have unwritten : order.overwritten (.present entries) = .present entries :=
    overwritten_of_missing free
  rw [run_open legal staging differs noInner, unwritten, Folder.entries,
    NameMap.erase_of_missing free, stagingFile, free]

end SaveOrder

end DesktopAutomation
