import DesktopAutomation.Proofs.Store.FolderView

/-! What loading and deleting may touch: nothing under a name that is refused, and under any other
name nothing but the entry with this name in the store's folder. So no path leads out of the store.
-/

namespace DesktopAutomation

-----------------------------------------------------------------------------------------
-- Names before any call
-----------------------------------------------------------------------------------------

namespace Store

/-- What loading and deleting do with a name before a file system is asked, whatever answers the
calls. A name that is refused causes none. Any other causes a single one, at its path in the folder.
A folder by itself is asked for the same names.
-/
structure Guarded (folderPath name : String) : Prop where
  refused
    : ∀ {m : Type → Type} [Monad m] (look : String → m Lookup)
        (unlink : String → m (Except FileFault Unit)),
        ¬IsEntryName name
        → loadBy look folderPath name = pure (.error (.storage (.invalidFileName name)))
          ∧ deleteBy unlink folderPath name = pure (some (.storage (.invalidFileName name)))
  taken
    : ∀ {m : Type → Type} [Monad m] (look : String → m Lookup)
        (unlink : String → m (Except FileFault Unit)),
        IsEntryName name
        → loadBy look folderPath name
            = documentOf folderPath name <$> look (joinPath folderPath name)
          ∧ deleteBy unlink folderPath name
            = deletionError? folderPath name <$> unlink (joinPath folderPath name)
  loads
    : ∀ folder,
        load folderPath folder name ≠ .error (.storage (.invalidFileName name))
        ↔ IsEntryName name
  deletes
    : ∀ folder,
        (delete folderPath name folder).1 ≠ some (.storage (.invalidFileName name))
        ↔ IsEntryName name
  kept : ∀ folder, ¬IsEntryName name → (delete folderPath name folder).2 = folder

theorem guarded (folderPath name : String) : Guarded folderPath name where
  refused look unlink notEntry :=
    ⟨loadBy_refused notEntry look, deleteBy_refused notEntry unlink⟩
  taken look unlink isEntry := ⟨loadBy_entry isEntry look, deleteBy_entry isEntry unlink⟩
  loads _ := load_ne_invalid_iff
  deletes _ := delete_ne_invalid_iff
  kept folder notEntry := by rw [delete_refused notEntry]

end Store

-----------------------------------------------------------------------------------------
-- Calls in a file system
-----------------------------------------------------------------------------------------

namespace Disk

/-- What loading and deleting under a name can touch in a file system that has a store at a path.
The path of a name that is taken leads to the entry with this name in the store's folder, whatever
links lead to this folder. If no link stands in it, what is loaded depends on this entry alone.
Nothing but this entry is ever deleted, and only if it is not a folder.
-/
structure Confined (disk : Disk) (folderPath name : String) : Prop where
  loads : disk.load folderPath name ≠ .error (.storage (.invalidFileName name)) ↔ IsEntryName name
  deletes
    : (disk.delete folderPath name).1 ≠ some (.storage (.invalidFileName name))
      ↔ IsEntryName name
  addressed
    : ∀ toEnd,
        IsEntryName name
        → (toEnd = true → disk.Linkless folderPath)
        → disk.reach toEnd (joinPath folderPath name)
          = if isFollowable (joinPath folderPath name) then
              (disk.storeAt folderPath).bind (disk.child name)
            else .error .other
  read
    : ∀ other : Disk,
        disk.Linkless folderPath
        → other.storeAt folderPath = disk.storeAt folderPath
        → (∀ folder,
            disk.storeAt folderPath = .ok folder
            → other.item? (folder ++ [name]) = disk.item? (folder ++ [name]))
        → other.load folderPath name = disk.load folderPath name
  deleted
    : ∀ place,
        (disk.delete folderPath name).2.item? place ≠ disk.item? place
        → IsEntryName name
          ∧ (∃ folder, disk.storeAt folderPath = .ok folder ∧ place = folder ++ [name])
          ∧ disk.item? place ≠ some .folder
          ∧ (disk.delete folderPath name).2.item? place = none

theorem confined (disk : Disk) (folderPath name : String) : disk.Confined folderPath name where
  loads := load_ne_invalid_iff
  deletes := delete_ne_invalid_iff
  addressed _ isEntry unlinked :=
    reach_joinPath isEntry fun follows _ isStore => (unlinked follows).entry_ne isStore
  read _ linkless sameStore sameItem := linkless.load_congr sameStore sameItem
  deleted _ := delete_changes

end Disk

-----------------------------------------------------------------------------------------
-- The store
-----------------------------------------------------------------------------------------

namespace Store

/-- No path escapes a store. Loading and deleting take the names of entries and refuse all others
before any call, and they touch nothing but the entry that has the name in the folder of the store;
so it is when names are deleted one behind the other. Where a single folder shows the store, they
give the same for this folder, and what is left of it shows what is left of the store.
-/
theorem names_confined (folderPath : String)
    : (∀ name, Guarded folderPath name)
      ∧ ∀ disk : Disk,
          (∀ name, disk.Confined folderPath name)
          ∧ (disk.Linkless folderPath
              → ∀ names, disk.LosesOnly (disk.deleteAll folderPath names) folderPath names)
          ∧ ∀ folder name,
              Folder.Shows disk (disk.storeAt folderPath) folder
              → Disk.isFollowable (joinPath folderPath name) = true
              → load folderPath folder name = disk.load folderPath name
                ∧ (delete folderPath name folder).1 = (disk.delete folderPath name).1
                ∧ Folder.Shows (disk.delete folderPath name).2
                    ((disk.delete folderPath name).2.storeAt folderPath)
                    (delete folderPath name folder).2 := by
  refine ⟨guarded folderPath, fun disk => ⟨disk.confined folderPath, ?_, ?_⟩⟩
  · exact Disk.Linkless.losesOnly_deleteAll
  · intro folder name isShown follows
    exact ⟨isShown.load follows, isShown.delete follows⟩

end Store

/-- A store to which a link leads, with a file and a folder in it. There is a file in the folder and
another one next to the store.
-/
def linkedPlaces : List (List String × Item) :=
  [([], .folder), (["mnt"], .link "srv"), (["srv"], .folder), (["srv", "other.json"], .file .empty),
    (["srv", "store"], .folder), (["srv", "store", "a.json"], .file .empty),
    (["srv", "store", "inner"], .folder), (["srv", "store", "inner", "b.json"], .file .empty)]

def linkedStore : Disk where
  item? place := linkedPlaces.lookup place
  current := []
  root := rfl
  nested place name isThere := by
    have inFolders
        : ∀ item ∈ linkedPlaces,
            item.1 ≠ [] → linkedPlaces.lookup item.1.dropLast = some .folder := by
      decide +kernel
    obtain ⟨item, member, same⟩ :=
      List.lookup_isSome_iff.mp (Option.isSome_iff_ne_none.mpr isThere)
    have inFolder := inFolders item member
    rw [← eq_of_beq same, List.dropLast_concat] at inFolder
    exact inFolder (by simp)

def linkedFolder : Folder :=
  .present (.ofList [("a.json", .file 0 .empty), ("inner", .folder [("b.json", .file 1 .empty)])])

/-- The link leads into the store. -/
theorem lead_linkedStore (tail : List String)
    : linkedStore.lead true mostLinks [] ("" :: "mnt" :: "store" :: tail)
      = linkedStore.lead true 39 ["srv", "store"] tail := by
  have target : Entry.pathParts "srv".toList = ["srv"] := by decide +kernel
  have root : linkedStore.item? [] = some .folder := rfl
  have mnt : linkedStore.item? ["mnt"] = some (.link "srv") := rfl
  have srv : linkedStore.item? ["srv"] = some .folder := rfl
  have store : linkedStore.item? ["srv", "store"] = some .folder := rfl
  simp +decide [-String.reduceToList, mostLinks, Disk.lead, Disk.enter, Disk.entry, Disk.standing,
    Disk.startOf, Except.bind, target, root, mnt, srv, store]

theorem storeAt_linkedStore : linkedStore.storeAt "/mnt/store" = .ok ["srv", "store"] := by
  have parts : Entry.pathParts "/mnt/store".toList = ["", "mnt", "store"] := by decide +kernel
  refine Disk.storeAt_eq_ok_iff.mpr ⟨?_, rfl⟩
  rw [parts]
  exact (lead_linkedStore []).trans Disk.lead_nil

/-- The way from the store to the file next to it. -/
theorem reach_other
    : linkedStore.reach true (joinPath "/mnt/store" "../other.json")
      = .ok ["srv", "other.json"] := by
  have parts
      : Entry.pathParts (joinPath "/mnt/store" "../other.json").toList
        = ["", "mnt", "store", "..", "other.json"] := by decide +kernel
  have srv : linkedStore.item? ["srv"] = some .folder := rfl
  have store : linkedStore.item? ["srv", "store"] = some .folder := rfl
  have other : linkedStore.item? ["srv", "other.json"] = some (.file .empty) := rfl
  rw [Disk.reach, if_neg (by decide +kernel), if_pos (by decide +kernel), parts]
  refine (lead_linkedStore _).trans ?_
  simp +decide [Disk.lead, Disk.enter, Disk.entry, Disk.standing, Except.bind, srv, store, other]

theorem linkedFolder_shows
    : Folder.Shows linkedStore (linkedStore.storeAt "/mnt/store") linkedFolder := by
  rw [storeAt_linkedStore]
  refine .present fun name => ?_
  rw [NameMap.find?_ofList]
  by_cases isFile : name = "a.json"
  · subst isFile
    rfl
  · by_cases isFolder : name = "inner"
    · subst isFolder
      rfl
    · have notFile := beq_false_of_ne isFile
      have notFolder := beq_false_of_ne isFolder
      simp [linkedStore, linkedPlaces, List.lookup_cons, notFile, notFolder]

/-- The name leads through the link to the file in the store, and this file is all that is lost. The
other path leads to the file next to the store, but it is refused.
-/
theorem names_confined_linked
    : let path := "/mnt/store"
      let file := ["srv", "store", "a.json"]
      let left := linkedStore.deleteAll path ["../other.json", "a.json"]
      IsEntryName "a.json"
      ∧ linkedStore.Linkless path
      ∧ Folder.Shows linkedStore (linkedStore.storeAt path) linkedFolder
      ∧ linkedStore.reach true (joinPath path "a.json") = .ok file
      ∧ Store.load path linkedFolder "a.json" = linkedStore.load path "a.json"
      ∧ (Store.delete path "a.json" linkedFolder).1 = (linkedStore.delete path "a.json").1
      ∧ ¬IsEntryName "../other.json"
      ∧ linkedStore.reach true (joinPath path "../other.json") = .ok ["srv", "other.json"]
      ∧ linkedStore.load path "../other.json"
        = .error (.storage (.invalidFileName "../other.json"))
      ∧ linkedStore.item? file = some (.file .empty)
      ∧ left.item? file = none
      ∧ ∀ place, place ≠ file → left.item? place = linkedStore.item? place := by
  intro path file left
  have isEntry : IsEntryName "a.json" := by constructor <;> decide
  have notEntry : ¬IsEntryName "../other.json" := fun isEntry => isEntry.single (by decide)
  have isShown := linkedFolder_shows
  have linkless := isShown.linkless
  have isStore := storeAt_linkedStore
  have follows : Disk.isFollowable (joinPath path "a.json") = true := by decide +kernel
  have isFile : linkedStore.entry ["srv", "store"] "a.json" = .ok (.file .empty) := rfl
  have notFolder : linkedStore.item? file ≠ some .folder := by decide +kernel
  have isLeft : left = linkedStore.erase file notFolder := by
    show ((linkedStore.delete path "../other.json").2.delete path "a.json").2 = _
    rw [Disk.delete_refused notEntry, Disk.delete_entry isEntry,
      Disk.unlink_item isEntry follows isStore isFile notFolder]
    rfl
  obtain ⟨-, inDisks⟩ := Store.names_confined path
  obtain ⟨confined, losesOnly, asFolder⟩ := inDisks linkedStore
  obtain ⟨loads, deletes, -⟩ := asFolder linkedFolder "a.json" isShown follows
  have reaches := (confined "a.json").addressed true isEntry fun _ => linkless
  rw [if_pos follows, isStore] at reaches
  refine ⟨isEntry, linkless, isShown, reaches, loads, deletes, notEntry, reach_other, ?_, rfl,
    isLeft ▸ Disk.item?_erase notFolder, ?_⟩
  · by_contra isTaken
    exact notEntry ((confined "../other.json").loads.mp isTaken)
  · intro place apart
    by_contra changed
    obtain ⟨⟨folder, name, isFolder, isName, isOne, isPlace⟩, -⟩ :=
      (losesOnly linkless _).lost place changed
    rw [isStore] at isFolder
    rw [isPlace, ← Except.ok.inj isFolder] at apart
    rcases List.mem_pair.mp isName with rfl | rfl
    · exact notEntry isOne
    · exact apart rfl

end DesktopAutomation
