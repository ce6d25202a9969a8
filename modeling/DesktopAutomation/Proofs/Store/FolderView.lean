import DesktopAutomation.Proofs.Store.Disk
import DesktopAutomation.Proofs.Store.Folder

/-! A store that is taken as a single folder, against the store in a file system that this folder
shows: loading and deleting give the same for both, and leave a folder that shows what is left of
the store.
-/

namespace DesktopAutomation

/-- What an entry of a folder is in a file system. -/
def Entry.item : Entry → Item
  | .file _ content => .file content
  | .folder _ => .folder

/-- A folder shows what is found where a path leads: what stands there directly, or that nothing is
there, or that no folder can be entered.
-/
inductive Folder.Shows (disk : Disk) : Except FileFault (List String) → Folder → Prop
  | absent : Folder.Shows disk (.error .notFound) .absent
  | barred : Folder.Shows disk (.error .other) .file
  | present {place : List String} {entries : NameMap Entry}
    (shown : ∀ name, (entries.find? name).map Entry.item = disk.item? (place ++ [name]))
    : Folder.Shows disk (.ok place) (.present entries)

namespace Folder

variable {disk : Disk} {folder : Folder} {folderPath name : String}

/-- The entry with a name, if the folder can be asked for it. -/
def standing (folder : Folder) (name : String) : Except FileFault Entry :=
  (folder.access name).bind fun entries =>
    match entries.find? name with
    | some entry => .ok entry
    | none => .error .notFound

theorem read_eq (folder : Folder) (name : String)
    : folder.read name = (folder.standing name).bind fun entry => entry.item.content := by
  rw [read, standing]
  cases folder.access name with
  | error fault => rfl
  | ok entries =>
      simp only [bind, Except.bind]
      cases entries.find? name with
      | none => rfl
      | some entry => cases entry <;> rfl

theorem unlink_eq (folder : Folder) (name : String)
    : folder.unlink name
      = (folder.standing name).bind fun
          | .file .. => .ok (.present (folder.entries.erase name))
          | .folder _ => .error .other := by
  rw [unlink, standing]
  cases asked : folder.access name with
  | error fault => rfl
  | ok entries =>
      rw [access_eq_ok asked]
      simp only [bind, Except.bind, Folder.entries]
      cases entries.find? name with
      | none => rfl
      | some entry => cases entry <;> rfl

/-- For a document it makes no difference whether a folder stands there or nothing can be read. -/
theorem documentOf_look (folder : Folder)
    : Store.documentOf folderPath name (folder.look name)
      = Store.documentOf folderPath name (Disk.seen (folder.read name)) := by
  rw [look, read]
  cases folder.access name with
  | error fault => cases fault <;> rfl
  | ok entries =>
      simp only [bind, Except.bind]
      cases entries.find? name with
      | none => rfl
      | some entry => cases entry <;> rfl

/-- Where the path of a name can be followed, a folder can be asked for the name. -/
theorem asked_of_followable (follows : Disk.isFollowable (joinPath folderPath name) = true)
    : ¬(name.toList.contains '\x00' ∨ longestPath < name.utf8ByteSize) := by
  obtain ⟨before, whole⟩ : ∃ before, joinPath folderPath name = before ++ name := by
    rw [joinPath]
    split <;> exact ⟨_, rfl⟩
  rw [Disk.isFollowable, whole, String.toList_append, String.utf8ByteSize_append] at follows
  simp only [Bool.and_eq_true, Bool.not_eq_true', decide_eq_true_eq, List.contains_eq_mem,
    decide_eq_false_iff_not, List.mem_append, not_or] at follows
  rw [not_or, Nat.not_lt]
  exact ⟨by simpa using follows.1.2, by omega⟩

namespace Shows

/-- A folder that shows a store has the store's entries. -/
theorem found (isShown : Folder.Shows disk (disk.storeAt folderPath) folder)
    (follows : Disk.isFollowable (joinPath folderPath name) = true)
    : disk.found folderPath name = (folder.standing name).map Entry.item := by
  have asked := asked_of_followable follows
  rw [Disk.found, if_pos follows, standing]
  generalize disk.storeAt folderPath = leads at isShown
  cases isShown with
  | absent => rw [access, if_neg asked]; rfl
  | barred => rw [access, if_neg asked]; rfl
  | @present place entries shown =>
      rw [access, if_neg asked]
      simp only [Except.bind, Disk.entry, Disk.standing, ← shown]
      split
      · rfl
      · cases stands : entries.find? name <;> simp [Except.map, stands]

theorem linkless (isShown : Folder.Shows disk (disk.storeAt folderPath) folder)
    : disk.Linkless folderPath := by
  intro place isStore name target
  rw [isStore] at isShown
  cases isShown with
  | @present _ entries shown =>
      rw [← shown]
      rcases entries.find? name with _ | _ | _ <;> simp [Entry.item]

/-- What is loaded from a store is what is loaded from a folder that shows it. -/
theorem load (isShown : Folder.Shows disk (disk.storeAt folderPath) folder)
    (follows : Disk.isFollowable (joinPath folderPath name) = true)
    : Store.load folderPath folder name = disk.load folderPath name := by
  by_cases isEntry : IsEntryName name
  · have same : disk.read (joinPath folderPath name) = folder.read name := by
      rw [Disk.read_joinPath isEntry isShown.linkless.found_ne, isShown.found follows, read_eq]
      cases folder.standing name <;> rfl
    rw [Disk.load_entry isEntry, Disk.look, same, ← documentOf_look, Store.load_entry isEntry]
  · rw [Disk.load_refused isEntry, Store.load_refused isEntry]

/-- A folder without an entry shows a file system without the file that was this entry. -/
theorem erase {place : List String} {entries : NameMap Entry}
    (shown : ∀ other, (entries.find? other).map Entry.item = disk.item? (place ++ [other]))
    (notFolder : disk.item? (place ++ [name]) ≠ some .folder)
    : Folder.Shows (disk.erase (place ++ [name]) notFolder) (.ok place)
        (.present (entries.erase name)) := by
  refine .present fun other => ?_
  rw [NameMap.find?_erase]
  by_cases isName : other = name
  · subst isName
    rw [if_pos rfl, Disk.item?_erase]
    rfl
  · have apart : place ++ [other] ≠ place ++ [name] := by simpa using isName
    rw [if_neg isName, shown, Disk.item?_erase_of_ne notFolder apart]

/-- Deleting from a folder gives the error of deleting from the store that it shows, and leaves a
folder that shows what is left of the store.
-/
theorem delete (isShown : Folder.Shows disk (disk.storeAt folderPath) folder)
    (follows : Disk.isFollowable (joinPath folderPath name) = true)
    : (Store.delete folderPath name folder).1 = (disk.delete folderPath name).1
      ∧ Folder.Shows (disk.delete folderPath name).2
          ((disk.delete folderPath name).2.storeAt folderPath)
          (Store.delete folderPath name folder).2 := by
  rw [isShown.linkless.storeAt_delete]
  by_cases isEntry : IsEntryName name
  · have isFound := isShown.found follows
    rw [Disk.delete_entry isEntry, Store.delete_entry isEntry, unlink_eq]
    cases stands : folder.standing name with
    | error fault =>
        rw [stands] at isFound
        rw [Disk.unlink_error isEntry isFound]
        exact ⟨rfl, isShown⟩
    | ok entry =>
        rw [stands] at isFound
        obtain ⟨place, isStore, isItem, -⟩ := Disk.exists_of_found isFound
        have isThere := Disk.item?_of_standing (Disk.standing_of_entry isItem)
        rw [isStore] at isShown ⊢
        cases entry with
        | folder names =>
            rw [Disk.unlink_folder isEntry follows isStore isItem]
            exact ⟨rfl, isShown⟩
        | file mark content =>
            have notFolder : disk.item? (place ++ [name]) ≠ some .folder := by
              simp [isThere, Entry.item]
            rw [Disk.unlink_item isEntry follows isStore isItem notFolder]
            cases isShown with
            | present shown => exact ⟨rfl, erase shown notFolder⟩
  · rw [Disk.delete_refused isEntry, Store.delete_refused isEntry]
    exact ⟨rfl, isShown⟩

end Shows

end Folder

end DesktopAutomation
