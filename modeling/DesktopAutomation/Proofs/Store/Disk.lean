import DesktopAutomation.Proofs.Store.Paths

/-! What loading and deleting do to a file system. A name that is refused causes no call at all. For
any other name, the entry with this name in the store's folder is read or taken away, and deleting
changes nothing but that.
-/

namespace DesktopAutomation

-----------------------------------------------------------------------------------------
-- Names that are taken and names that are refused
-----------------------------------------------------------------------------------------

namespace Store

variable {folderPath name : String}

/-- No name is called invalid for what is found under it. -/
theorem documentOf_ne_invalid (found : Lookup)
    : documentOf folderPath name found ≠ .error (.storage (.invalidFileName name)) := by
  unfold documentOf
  split
  · simp
  · split
    · simp
    · next text _ => cases Document.read text <;> simp [Except.mapError]

/-- No name is called invalid for what comes of deleting it. -/
theorem deletionError?_ne_invalid (deleted : Except FileFault Unit)
    : deletionError? folderPath name deleted ≠ some (.storage (.invalidFileName name)) := by
  rcases deleted with fault | _
  · cases fault <;> simp [deletionError?]
  · simp [deletionError?]

section Calls

variable {m : Type → Type} [Monad m]

/-- The name of an entry is looked up at its path in the folder. -/
theorem loadBy_entry (isEntry : IsEntryName name) (look : String → m Lookup)
    : loadBy look folderPath name
      = documentOf folderPath name <$> look (joinPath folderPath name) := by
  rw [loadBy, if_pos ((isPlainName_iff_isEntryName name).mpr isEntry)]

/-- A name that is refused is not looked up. -/
theorem loadBy_refused (notEntry : ¬IsEntryName name) (look : String → m Lookup)
    : loadBy look folderPath name = pure (.error (.storage (.invalidFileName name))) := by
  rw [loadBy, if_neg (mt (isPlainName_iff_isEntryName name).mp notEntry)]

/-- The name of an entry is dropped at its path in the folder. -/
theorem deleteBy_entry (isEntry : IsEntryName name) (unlink : String → m (Except FileFault Unit))
    : deleteBy unlink folderPath name
      = deletionError? folderPath name <$> unlink (joinPath folderPath name) := by
  rw [deleteBy, if_pos ((isPlainName_iff_isEntryName name).mpr isEntry)]

/-- Nothing is deleted under a name that is refused. -/
theorem deleteBy_refused (notEntry : ¬IsEntryName name)
    (unlink : String → m (Except FileFault Unit))
    : deleteBy unlink folderPath name = pure (some (.storage (.invalidFileName name))) := by
  rw [deleteBy, if_neg (mt (isPlainName_iff_isEntryName name).mp notEntry)]

end Calls

section Folders

variable {folder : Folder}

/-- The name of an entry is looked up in the folder itself. -/
theorem load_entry (isEntry : IsEntryName name)
    : load folderPath folder name = documentOf folderPath name (folder.look name) := by
  rw [load, if_pos ((isPlainName_iff_isEntryName name).mpr isEntry)]

/-- Any other name is refused before anything is looked up. -/
theorem load_refused (notEntry : ¬IsEntryName name)
    : load folderPath folder name = .error (.storage (.invalidFileName name)) := by
  rw [load, if_neg (mt (isPlainName_iff_isEntryName name).mp notEntry)]

/-- The name of an entry is dropped in the folder itself. -/
theorem delete_entry (isEntry : IsEntryName name)
    : delete folderPath name folder
      = match folder.unlink name with
        | .ok left => (none, left)
        | .error fault => (deletionError? folderPath name (.error fault), folder) := by
  rw [delete, if_pos ((isPlainName_iff_isEntryName name).mpr isEntry)]
  rcases folder.unlink name with fault | left
  · cases fault <;> rfl
  · rfl

/-- Any other name is refused, and nothing changes. -/
theorem delete_refused (notEntry : ¬IsEntryName name)
    : delete folderPath name folder = (some (.storage (.invalidFileName name)), folder) := by
  rw [delete, if_neg (mt (isPlainName_iff_isEntryName name).mp notEntry)]

/-- Loading accepts a name exactly if it is that of an entry. -/
theorem load_ne_invalid_iff
    : load folderPath folder name ≠ .error (.storage (.invalidFileName name))
      ↔ IsEntryName name := by
  by_cases isEntry : IsEntryName name
  · simp only [load_entry isEntry, isEntry, iff_true]
    exact documentOf_ne_invalid _
  · simp [load_refused isEntry, isEntry]

/-- Deleting accepts a name exactly if it is that of an entry. -/
theorem delete_ne_invalid_iff
    : (delete folderPath name folder).1 ≠ some (.storage (.invalidFileName name))
      ↔ IsEntryName name := by
  by_cases isEntry : IsEntryName name
  · simp only [delete_entry isEntry, isEntry, iff_true]
    cases folder.unlink name with
    | error fault => exact deletionError?_ne_invalid _
    | ok left => simp
  · simp [delete_refused isEntry, isEntry]

end Folders

end Store

namespace Disk

variable {disk : Disk} {folderPath name : String}

/-- On a whole file system, the name of an entry is looked up at its path. -/
theorem load_entry (isEntry : IsEntryName name)
    : disk.load folderPath name
      = Store.documentOf folderPath name (disk.look (joinPath folderPath name)) := by
  rw [load, Store.loadBy_entry isEntry]
  rfl

/-- Any other name is refused, and no path is followed. -/
theorem load_refused (notEntry : ¬IsEntryName name)
    : disk.load folderPath name = .error (.storage (.invalidFileName name)) := by
  rw [load, Store.loadBy_refused notEntry]
  rfl

/-- On a whole file system, the name of an entry is dropped at its path. -/
theorem delete_entry (isEntry : IsEntryName name)
    : disk.delete folderPath name
      = (Store.deletionError? folderPath name (unlink (joinPath folderPath name) disk).1,
          (unlink (joinPath folderPath name) disk).2) := by
  rw [delete, Store.deleteBy_entry isEntry]
  rfl

/-- Any other name is refused, and the file system stays as it was. -/
theorem delete_refused (notEntry : ¬IsEntryName name)
    : disk.delete folderPath name = (some (.storage (.invalidFileName name)), disk) := by
  rw [delete, Store.deleteBy_refused notEntry]
  rfl

theorem load_ne_invalid_iff
    : disk.load folderPath name ≠ .error (.storage (.invalidFileName name))
      ↔ IsEntryName name := by
  by_cases isEntry : IsEntryName name
  · simp only [load_entry isEntry, isEntry, iff_true]
    exact Store.documentOf_ne_invalid _
  · simp [load_refused isEntry, isEntry]

theorem delete_ne_invalid_iff
    : (disk.delete folderPath name).1 ≠ some (.storage (.invalidFileName name))
      ↔ IsEntryName name := by
  by_cases isEntry : IsEntryName name
  · simp only [delete_entry isEntry, isEntry, iff_true]
    exact Store.deletionError?_ne_invalid _
  · simp [delete_refused isEntry, isEntry]

-----------------------------------------------------------------------------------------
-- What a name stands for
-----------------------------------------------------------------------------------------

/-- What a name stands for in the folder of a store, as far as its path can be followed. -/
def found (disk : Disk) (folderPath name : String) : Except FileFault Item :=
  if isFollowable (joinPath folderPath name) then
    (disk.storeAt folderPath).bind fun folder => disk.entry folder name
  else .error .other

/-- No symbolic link stands in the folder of a store. -/
def Linkless (disk : Disk) (folderPath : String) : Prop :=
  ∀ folder,
    disk.storeAt folderPath = .ok folder
    → ∀ name target, disk.item? (folder ++ [name]) ≠ some (.link target)

/-- In a store without links, no name stands for a link. -/
theorem Linkless.entry_ne (linkless : disk.Linkless folderPath) {folder : List String}
    (isStore : disk.storeAt folderPath = .ok folder) (target : String)
    : disk.entry folder name ≠ .ok (.link target) :=
  fun isLink =>
    linkless folder isStore name target (item?_of_standing (standing_of_entry isLink))

/-- The path of a name finds what stands in the folder that the path of the store leads to. -/
theorem exists_of_found {item : Item} (isFound : disk.found folderPath name = .ok item)
    : ∃ folder,
        disk.storeAt folderPath = .ok folder
        ∧ disk.entry folder name = .ok item
        ∧ isFollowable (joinPath folderPath name) = true := by
  rw [found] at isFound
  split at isFound
  · next follows =>
      cases isStore : disk.storeAt folderPath with
      | error fault => simp [isStore, Except.bind] at isFound
      | ok folder =>
          rw [isStore] at isFound
          exact ⟨folder, rfl, isFound, follows⟩
  · cases isFound

/-- In a store without links, no link is found under a name. -/
theorem Linkless.found_ne (linkless : disk.Linkless folderPath) (target : String)
    : disk.found folderPath name ≠ .ok (.link target) := by
  intro isLink
  obtain ⟨folder, isStore, stands, -⟩ := exists_of_found isLink
  exact linkless.entry_ne isStore target stands

/-- The path of a name leads to a place exactly if it finds something there. -/
theorem reach_found {toEnd : Bool} (isEntry : IsEntryName name)
    (unlinked : toEnd = true → ∀ target, disk.found folderPath name ≠ .ok (.link target))
    : (disk.reach toEnd (joinPath folderPath name)).bind disk.standing
      = disk.found folderPath name := by
  rw [found]
  by_cases follows : isFollowable (joinPath folderPath name) = true
  · rw [reach_joinPath isEntry, if_pos follows, if_pos follows]
    · cases disk.storeAt folderPath with
      | error fault => rfl
      | ok folder =>
          simp only [Except.bind, child]
          cases stands : disk.entry folder name with
          | error fault => rfl
          | ok item => exact standing_of_entry stands
    · intro isLast folder isStore target isLink
      refine unlinked isLast target ?_
      rw [found, if_pos follows, isStore]
      exact isLink
  · rw [reach, if_neg (joinPath_ne_empty isEntry), if_neg follows, if_neg follows]
    rfl

-----------------------------------------------------------------------------------------
-- Loading
-----------------------------------------------------------------------------------------

/-- The path of an entry that is no link reads as what is found in the store: the last part is
followed no further.
-/
theorem read_joinPath (isEntry : IsEntryName name)
    (unlinked : ∀ target, disk.found folderPath name ≠ .ok (.link target))
    : disk.read (joinPath folderPath name) = (disk.found folderPath name).bind Item.content := by
  rw [read, reach_found isEntry fun _ => unlinked]

/-- If no link stands in a store's folder, what is loaded depends on where the store is and on what
stands in its folder under the name, and on nothing else.
-/
theorem Linkless.load_congr {other : Disk} (linkless : disk.Linkless folderPath)
    (sameStore : other.storeAt folderPath = disk.storeAt folderPath)
    (sameItem
      : ∀ folder,
          disk.storeAt folderPath = .ok folder
          → other.item? (folder ++ [name]) = disk.item? (folder ++ [name]))
    : other.load folderPath name = disk.load folderPath name := by
  by_cases isEntry : IsEntryName name
  · have same : other.found folderPath name = disk.found folderPath name := by
      rw [found, found, sameStore]
      cases isStore : disk.storeAt folderPath with
      | error fault => rfl
      | ok folder => simp only [Except.bind, entry, standing, sameItem folder isStore]
    have unlinked : ∀ target, disk.found folderPath name ≠ .ok (.link target) :=
      linkless.found_ne
    rw [load_entry isEntry, load_entry isEntry, look, look, read_joinPath isEntry unlinked,
      read_joinPath isEntry (same ▸ unlinked), same]
  · rw [load_refused isEntry, load_refused isEntry]

-----------------------------------------------------------------------------------------
-- Deleting
-----------------------------------------------------------------------------------------

theorem remove_error {place : List String} {fault : FileFault}
    (missing : disk.standing place = .error fault)
    : disk.remove place = .error fault := by
  have notFolder : disk.item? place ≠ some .folder := fun isFolder => by
    simp [standing, isFolder] at missing
  rw [remove, dif_neg notFolder, missing]
  rfl

/-- Where nothing is found, nothing changes. -/
theorem unlink_error {fault : FileFault} (isEntry : IsEntryName name)
    (missing : disk.found folderPath name = .error fault)
    : unlink (joinPath folderPath name) disk = (.error fault, disk) := by
  have notThere
      : (disk.reach false (joinPath folderPath name)).bind disk.standing = .error fault :=
    (reach_found isEntry (by simp)).trans missing
  have fails : (disk.reach false (joinPath folderPath name)).bind disk.remove = .error fault := by
    cases reaches : disk.reach false (joinPath folderPath name) with
    | error why =>
        rw [reaches] at notThere
        exact congrArg Except.error (Except.error.inj notThere)
    | ok place =>
        rw [reaches] at notThere
        exact remove_error notThere
  rw [unlink, fails]

section Found

variable {folder : List String} {item : Item}

/-- The path of an entry that is there leads to its place in the folder of the store, and a link
there is not followed.
-/
theorem reach_entry (isEntry : IsEntryName name)
    (follows : isFollowable (joinPath folderPath name) = true)
    (isStore : disk.storeAt folderPath = .ok folder)
    (stands : disk.entry folder name = .ok item)
    : disk.reach false (joinPath folderPath name) = .ok (folder ++ [name]) := by
  rw [reach_joinPath isEntry (by simp), if_pos follows, isStore]
  simp only [Except.bind, child, stands, Except.map]

/-- A folder that an entry stands for is not taken away. -/
theorem unlink_folder (isEntry : IsEntryName name)
    (follows : isFollowable (joinPath folderPath name) = true)
    (isStore : disk.storeAt folderPath = .ok folder)
    (stands : disk.entry folder name = .ok .folder)
    : unlink (joinPath folderPath name) disk = (.error .other, disk) := by
  have isFolder := item?_of_standing (standing_of_entry stands)
  have fails : disk.remove (folder ++ [name]) = .error .other := by rw [remove, dif_pos isFolder]
  rw [unlink, reach_entry isEntry follows isStore stands]
  simp only [Except.bind, fails]

/-- A file or a link that is found is taken away. -/
theorem unlink_item (isEntry : IsEntryName name)
    (follows : isFollowable (joinPath folderPath name) = true)
    (isStore : disk.storeAt folderPath = .ok folder)
    (stands : disk.entry folder name = .ok item)
    (notFolder : disk.item? (folder ++ [name]) ≠ some .folder)
    : unlink (joinPath folderPath name) disk
      = (.ok (), disk.erase (folder ++ [name]) notFolder) := by
  have isLeft
      : disk.remove (folder ++ [name]) = .ok (disk.erase (folder ++ [name]) notFolder) := by
    rw [remove, dif_neg notFolder, standing_of_entry stands]
    rfl
  rw [unlink, reach_entry isEntry follows isStore stands]
  simp only [Except.bind, isLeft]

end Found

/-- All that deleting does to a file system: nothing, or it takes away the file or the link that
stands in the store's folder under the name.
-/
theorem delete_cases (disk : Disk) (folderPath name : String)
    : (disk.delete folderPath name).2 = disk
      ∨ IsEntryName name
        ∧ ∃ folder item,
            disk.storeAt folderPath = .ok folder
            ∧ disk.item? (folder ++ [name]) = some item
            ∧ ∃ notFolder : disk.item? (folder ++ [name]) ≠ some .folder,
                (disk.delete folderPath name).2 = disk.erase (folder ++ [name]) notFolder := by
  by_cases isEntry : IsEntryName name
  · rw [delete_entry isEntry]
    cases isFound : disk.found folderPath name with
    | error fault => exact .inl (by rw [unlink_error isEntry isFound])
    | ok item =>
        obtain ⟨folder, isStore, stands, follows⟩ := exists_of_found isFound
        have isItem := item?_of_standing (standing_of_entry stands)
        by_cases isFolder : item = .folder
        · subst isFolder
          exact .inl (by rw [unlink_folder isEntry follows isStore stands])
        · have notFolder : disk.item? (folder ++ [name]) ≠ some .folder := by simpa [isItem]
          refine .inr ⟨isEntry, folder, item, isStore, isItem, notFolder, ?_⟩
          rw [unlink_item isEntry follows isStore stands notFolder]
  · exact .inl (by rw [delete_refused isEntry])

/-- Deleting changes a place only if this is that of an entry of the store, and takes away what
stands there, which is no folder.
-/
theorem delete_changes {place : List String}
    (changed : (disk.delete folderPath name).2.item? place ≠ disk.item? place)
    : IsEntryName name
      ∧ (∃ folder, disk.storeAt folderPath = .ok folder ∧ place = folder ++ [name])
      ∧ disk.item? place ≠ some .folder
      ∧ (disk.delete folderPath name).2.item? place = none := by
  rcases delete_cases disk folderPath name
    with same | ⟨isEntry, folder, item, isStore, isItem, notFolder, isLeft⟩
  · rw [same] at changed
    exact absurd rfl changed
  · rw [isLeft] at changed ⊢
    have isPlace : place = folder ++ [name] := by
      by_contra apart
      exact changed (item?_erase_of_ne notFolder apart)
    subst isPlace
    exact ⟨isEntry, ⟨folder, isStore, rfl⟩, notFolder, item?_erase notFolder⟩

/-- If no link stands in a store's folder, nothing on the way to it is ever deleted. -/
theorem Linkless.storeAt_delete (linkless : disk.Linkless folderPath)
    : (disk.delete folderPath name).2.storeAt folderPath = disk.storeAt folderPath := by
  rcases delete_cases disk folderPath name
    with same | ⟨-, folder, item, isStore, isItem, notFolder, isLeft⟩
  · rw [same]
  · have kept := waysKept_erase notFolder (linkless folder isStore name)
    rw [isLeft, isStore]
    exact storeAt_kept kept isStore

-----------------------------------------------------------------------------------------
-- Deleting one name behind the other
-----------------------------------------------------------------------------------------

/-- Between two states of a file system, nothing is lost but entries of a store's folder that have
one of some names, and no folder. The store is where it was, and still without links.
-/
structure LosesOnly (disk left : Disk) (folderPath : String) (names : List String) : Prop where
  store : left.storeAt folderPath = disk.storeAt folderPath
  linkless : left.Linkless folderPath
  lost
    : ∀ place,
        left.item? place ≠ disk.item? place
        → (∃ folder name,
            disk.storeAt folderPath = .ok folder
            ∧ name ∈ names
            ∧ IsEntryName name
            ∧ place = folder ++ [name])
          ∧ disk.item? place ≠ some .folder
          ∧ left.item? place = none

/-- Nothing is lost as long as nothing is deleted. -/
theorem Linkless.losesOnly_nil (linkless : disk.Linkless folderPath)
    : disk.LosesOnly disk folderPath [] :=
  ⟨rfl, linkless, fun _ changed => absurd rfl changed⟩

/-- One deletion loses the entry with the name at most, and keeps the store without links. -/
theorem Linkless.losesOnly_delete (linkless : disk.Linkless folderPath) (name : String)
    : disk.LosesOnly (disk.delete folderPath name).2 folderPath [name] where
  store := linkless.storeAt_delete
  linkless := by
    intro folder isStore other target isLink
    rw [linkless.storeAt_delete] at isStore
    refine linkless folder isStore other target ?_
    by_contra apart
    have isGone := (delete_changes fun same => apart (same ▸ isLink)).2.2.2
    rw [isGone] at isLink
    cases isLink
  lost place changed := by
    obtain ⟨isEntry, ⟨folder, isStore, isPlace⟩, notFolder, isGone⟩ := delete_changes changed
    have isName : name ∈ [name] := List.mem_singleton_self name
    exact ⟨⟨folder, name, isStore, isName, isEntry, isPlace⟩, notFolder, isGone⟩

/-- What is lost by two deletions is lost by one of them. -/
theorem LosesOnly.trans {middle left : Disk} {names others : List String}
    (first : disk.LosesOnly middle folderPath names)
    (second : middle.LosesOnly left folderPath others)
    : disk.LosesOnly left folderPath (names ++ others) where
  store := second.store.trans first.store
  linkless := second.linkless
  lost place changed := by
    by_cases unchanged : middle.item? place = disk.item? place
    · rw [← unchanged] at changed ⊢
      obtain ⟨⟨folder, name, isStore, isName, there⟩, notFolder, isGone⟩ :=
        second.lost place changed
      rw [first.store] at isStore
      exact ⟨⟨folder, name, isStore, List.mem_append_right names isName, there⟩, notFolder, isGone⟩
    · obtain ⟨⟨folder, name, isStore, isName, there⟩, notFolder, isGone⟩ :=
        first.lost place unchanged
      refine ⟨⟨folder, name, isStore, List.mem_append_left others isName, there⟩, notFolder, ?_⟩
      by_cases again : left.item? place = middle.item? place
      · rw [again, isGone]
      · exact (second.lost place again).2.2

/-- What is left when names are deleted from a store, one behind the other. -/
def deleteAll (disk : Disk) (folderPath : String) : List String → Disk
  | [] => disk
  | name :: rest => (disk.delete folderPath name).2.deleteAll folderPath rest

/-- However many names are deleted, the rest of the file system stays, by induction on the names:
each one finds the store where it was and without links.
-/
theorem Linkless.losesOnly_deleteAll (linkless : disk.Linkless folderPath) (names : List String)
    : disk.LosesOnly (disk.deleteAll folderPath names) folderPath names := by
  induction names generalizing disk with
  | nil => exact linkless.losesOnly_nil
  | cons name rest ih =>
      have first := linkless.losesOnly_delete name
      exact first.trans (ih first.linkless)

end Disk

end DesktopAutomation
