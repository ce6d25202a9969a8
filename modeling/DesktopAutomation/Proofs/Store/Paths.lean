import DesktopAutomation.Proofs.Store.FileNames
import DesktopAutomation.Store.Disk

/-! Where the path of a name in a store leads: to the entry with this name in the folder that the
path of the store leads to, and nowhere else. Links may be followed on the way to this folder; the
name itself is the last part of the path and neither a mark nor a path of its own.
-/

namespace DesktopAutomation

-----------------------------------------------------------------------------------------
-- Parts of paths
-----------------------------------------------------------------------------------------

namespace Entry

theorem pathParts_slash (rest : List Char) : pathParts ('/' :: rest) = "" :: pathParts rest := rfl

theorem pathParts_ne_nil (path : List Char) : pathParts path ≠ [] := by
  cases path with
  | nil => simp [pathParts]
  | cons c rest =>
      rw [pathParts, List.foldr_cons]
      split <;> simp

/-- A character that is no slash belongs to the first part. -/
theorem pathParts_cons {c : Char} (notSlash : c ≠ '/') {rest : List Char} {part : String}
    {others : List String} (parts : pathParts rest = part :: others)
    : pathParts (c :: rest) = (String.singleton c ++ part) :: others := by
  rw [pathParts, List.foldr_cons, ← pathParts, parts]
  split
  · exact absurd rfl notSlash
  · simp_all
  · simp_all

/-- A slash separates the parts before it from those behind it. -/
theorem pathParts_append (before behind : List Char)
    : pathParts (before ++ '/' :: behind) = pathParts before ++ pathParts behind := by
  induction before with
  | nil => rfl
  | cons c rest ih =>
      by_cases slash : c = '/'
      · subst slash
        rw [List.cons_append, pathParts_slash, pathParts_slash, ih, List.cons_append]
      · obtain ⟨part, others, parts⟩ := List.exists_cons_of_ne_nil (pathParts_ne_nil rest)
        rw [parts, List.cons_append] at ih
        rw [List.cons_append, pathParts_cons slash ih, pathParts_cons slash parts,
          List.cons_append]

/-- Without a slash, the whole path is one part, by induction over it. -/
theorem pathParts_of_not_mem {name : List Char} (single : '/' ∉ name)
    : pathParts name = [String.ofList name] := by
  induction name with
  | nil => rfl
  | cons c rest ih =>
      rw [List.mem_cons, not_or] at single
      rw [pathParts_cons (Ne.symm single.1) (ih single.2), String.singleton_eq_ofList,
        ← String.ofList_append, List.singleton_append]

end Entry

/-- The name of an entry is a path of one part. -/
theorem IsEntryName.pathParts {name : String} (isEntry : IsEntryName name)
    : Entry.pathParts name.toList = [name] := by
  rw [Entry.pathParts_of_not_mem isEntry.single, String.ofList_toList]

namespace Disk

-----------------------------------------------------------------------------------------
-- Following parts
-----------------------------------------------------------------------------------------

/-- A place, if a folder can be entered there. -/
def entered (disk : Disk) (place : List String) : Except FileFault (List String) :=
  (disk.enter place).map fun _ => place

/-- The place of a name in a folder, if there is something. -/
def child (disk : Disk) (name : String) (folder : List String)
    : Except FileFault (List String) :=
  (disk.entry folder name).map fun _ => folder ++ [name]

section Items

variable {disk : Disk} {place : List String} {item : Item} {name : String}

theorem item?_of_standing (stands : disk.standing place = .ok item)
    : disk.item? place = some item := by
  rw [standing] at stands
  split at stands
  · next isItem => rw [isItem, Except.ok.inj stands]
  · cases stands

/-- What a name stands for in a folder stands at the place of this name. -/
theorem standing_of_entry (stands : disk.entry place name = .ok item)
    : disk.standing (place ++ [name]) = .ok item := by
  rw [entry] at stands
  split at stands
  · cases stands
  · exact stands

/-- A place can be entered exactly if a folder stands there. -/
theorem enter_eq_ok_iff : disk.enter place = .ok () ↔ disk.item? place = some .folder := by
  rw [enter, standing]
  rcases disk.item? place with _ | _ | _ | _ <;> simp [Except.bind]

@[simp] theorem item?_erase (notFolder : disk.item? place ≠ some .folder)
    : (disk.erase place notFolder).item? place = none :=
  if_pos rfl

/-- Nothing changes at other places when one is erased. -/
theorem item?_erase_of_ne (notFolder : disk.item? place ≠ some .folder) {other : List String}
    (apart : other ≠ place)
    : (disk.erase place notFolder).item? other = disk.item? other :=
  if_neg apart

end Items

section Lead

variable {disk : Disk} {toEnd : Bool} {links : Nat} {place : List String}

theorem lead_nil : disk.lead toEnd links place [] = .ok place := by rw [lead]

/-- The parts of a path are followed one behind the other. Only how many links are left for the
later ones depends on the earlier ones, and links among the earlier ones are followed in any case.
-/
theorem lead_append {parts tail : List String}
    {after : List String → Except FileFault (List String)}
    (isMore : tail ≠ [])
    (leads
      : ∀ folder, disk.lead true links place parts = .ok folder
          → ∀ left, disk.lead toEnd left folder tail = after folder)
    : disk.lead toEnd links place (parts ++ tail)
      = (disk.lead true links place parts).bind after := by
  -- No part before the tail is the end of the path, so a link there is followed.
  have goesOn (rest : List String) : ¬(rest ++ tail = [] ∧ toEnd = false) := by simp [isMore]
  fun_induction disk.lead true links place parts with
  | case1 links place => exact leads place rfl links
  | case2 links place part rest fault barred => rw [List.cons_append, lead, barred]; rfl
  | case3 links place part rest isOpen mark ih =>
      rw [List.cons_append, lead, isOpen]
      simp only [if_pos mark, ih leads]
  | case4 links place rest isOpen notMark ih =>
      rw [List.cons_append, lead, isOpen]
      simp only [if_neg notMark, ih leads, if_true]
  | case5 links place part rest isOpen notMark notUp fault missing =>
      rw [List.cons_append, lead, isOpen]
      simp only [if_neg notMark, if_neg notUp, missing]
      rfl
  | case6 links place part rest isOpen notMark notUp target isLink ends => cases ends.2
  | case7 place part rest isOpen notMark notUp target isLink more =>
      rw [List.cons_append, lead, isOpen]
      simp only [if_neg notMark, if_neg notUp, isLink, if_neg (goesOn rest)]
      rfl
  | case8 place part rest isOpen notMark notUp target isLink more links ih =>
      rw [List.cons_append, lead, isOpen]
      simp only [if_neg notMark, if_neg notUp, isLink, if_neg (goesOn rest)]
      rw [← List.append_assoc, ih leads]
  | case9 links place part rest isOpen notMark notUp item notLink isItem ih =>
      rw [List.cons_append, lead, isOpen]
      simp only [if_neg notMark, if_neg notUp, isItem]
      cases item with
      | link target => exact absurd rfl (notLink target)
      | _ => exact ih leads

/-- An empty part, as behind a slash at the end, asks for a folder. -/
theorem lead_empty : disk.lead toEnd links place [""] = disk.entered place := by
  rw [lead, entered]
  cases disk.enter place with
  | error fault => rfl
  | ok _ => exact lead_nil

/-- The name of an entry leads to this entry, unless that is a link which is followed. -/
theorem lead_name {name : String} (isEntry : IsEntryName name)
    (unlinked
      : toEnd = true
        → ∀ folder, disk.entered place = .ok folder
        → ∀ target, disk.entry folder name ≠ .ok (.link target))
    : disk.lead toEnd links place [name] = (disk.entered place).bind (disk.child name) := by
  have notMark : ¬(name = "" ∨ name = ".") := not_or.mpr ⟨isEntry.isSome, isEntry.notHere⟩
  rw [lead]
  cases isOpen : disk.enter place with
  | error fault =>
      rw [entered, isOpen]
      rfl
  | ok _ =>
      have isEntered : disk.entered place = .ok place := by rw [entered, isOpen]; rfl
      simp only [if_neg notMark, if_neg isEntry.notUp, isEntered, Except.bind, child]
      cases stands : disk.entry place name with
      | error fault => rfl
      | ok item =>
          cases item with
          | file content => exact lead_nil
          | folder => exact lead_nil
          | link target =>
              cases toEnd with
              | true => exact absurd stands (unlinked rfl place isEntered target)
              | false => rfl

end Lead

-----------------------------------------------------------------------------------------
-- Paths into a store
-----------------------------------------------------------------------------------------

/-- The folder that the path of a store leads to. -/
def storeAt (disk : Disk) (folderPath : String) : Except FileFault (List String) :=
  (disk.lead true mostLinks (startOf disk.current folderPath)
    (Entry.pathParts folderPath.toList)).bind disk.entered

/-- The parts of a path to a folder, without the empty one behind a slash at its end. -/
def partsTo (folderPath : String) : List String :=
  if folderPath = "" ∨ folderPath.toList.getLast? = some '/' then
    (Entry.pathParts folderPath.toList).dropLast
  else
    Entry.pathParts folderPath.toList

variable {disk : Disk} {folderPath name : String}

/-- The path of an entry has the parts of the path to the folder, and the name as the last one. -/
theorem pathParts_joinPath (isEntry : IsEntryName name)
    : Entry.pathParts (joinPath folderPath name).toList = partsTo folderPath ++ [name] := by
  rw [joinPath, partsTo]
  split
  · next ends =>
      rw [String.toList_append]
      rcases ends with rfl | slash
      · exact isEntry.pathParts
      · obtain ⟨before, whole⟩ := List.getLast?_eq_some_iff.mp slash
        rw [whole, List.append_assoc, List.singleton_append, Entry.pathParts_append,
          Entry.pathParts_append, isEntry.pathParts]
        simp [Entry.pathParts]
  · have slash : "/".toList = ['/'] := rfl
    rw [String.toList_append, String.toList_append, slash, List.append_assoc,
      List.singleton_append, Entry.pathParts_append, isEntry.pathParts]

/-- What was entered can be entered again. -/
theorem entered_entered (place : List String)
    : (disk.entered place).bind disk.entered = disk.entered place := by
  cases isOpen : disk.enter place <;> simp [entered, isOpen, Except.map, Except.bind]

/-- The empty part behind a slash at its end does not change where the path of a store leads. -/
theorem storeAt_eq
    : disk.storeAt folderPath
      = (disk.lead true mostLinks (startOf disk.current folderPath) (partsTo folderPath)).bind
          disk.entered := by
  rw [storeAt, partsTo]
  split
  · next ends =>
      obtain ⟨before, parts⟩ : ∃ before, Entry.pathParts folderPath.toList = before ++ [""] := by
        rcases ends with rfl | slash
        · exact ⟨[], rfl⟩
        · obtain ⟨before, whole⟩ := List.getLast?_eq_some_iff.mp slash
          exact ⟨Entry.pathParts before, by rw [whole, Entry.pathParts_append]; rfl⟩
      rw [parts, List.dropLast_concat,
        lead_append (List.cons_ne_nil "" []) fun _ _ _ => lead_empty]
      cases disk.lead true mostLinks (startOf disk.current folderPath) before with
      | error fault => rfl
      | ok place => exact entered_entered place
  · rfl

/-- The path of an entry starts where the path to the folder starts. -/
theorem startOf_joinPath (isEntry : IsEntryName name) (place : List String)
    : startOf place (joinPath folderPath name) = startOf place folderPath := by
  have same
      : (joinPath folderPath name).toList.head? = some '/'
        ↔ folderPath.toList.head? = some '/' := by
    rw [joinPath]
    by_cases isNone : folderPath = ""
    · subst isNone
      have notRoot : name.toList.head? ≠ some '/' := fun starts =>
        isEntry.single (List.mem_of_head? starts)
      simp [notRoot]
    · obtain ⟨c, rest, whole⟩ :=
        List.exists_cons_of_ne_nil (mt String.toList_eq_nil_iff.mp isNone)
      split <;> simp [whole]
  simp only [startOf, same]

theorem joinPath_ne_empty (isEntry : IsEntryName name) : joinPath folderPath name ≠ "" := by
  rw [joinPath]
  split <;> simp [isEntry.isSome]

/-- The path of a name in a store leads to the entry with this name in the store's folder, if there
is one; unless that is a link which is followed.
-/
theorem reach_joinPath {toEnd : Bool} (isEntry : IsEntryName name)
    (unlinked
      : toEnd = true
        → ∀ folder, disk.storeAt folderPath = .ok folder
        → ∀ target, disk.entry folder name ≠ .ok (.link target))
    : disk.reach toEnd (joinPath folderPath name)
      = if isFollowable (joinPath folderPath name) then
          (disk.storeAt folderPath).bind (disk.child name)
        else .error .other := by
  let start := startOf disk.current folderPath
  have leads
      : disk.lead toEnd mostLinks start (partsTo folderPath ++ [name])
        = (disk.lead true mostLinks start (partsTo folderPath)).bind
            fun place => (disk.entered place).bind (disk.child name) := by
    refine lead_append (List.cons_ne_nil name []) fun place isPlace left => ?_
    refine lead_name isEntry fun follows folder isEntered => unlinked follows folder ?_
    rw [storeAt_eq, isPlace]
    exact isEntered
  rw [reach, if_neg (joinPath_ne_empty isEntry), pathParts_joinPath isEntry,
    startOf_joinPath isEntry, leads, storeAt_eq]
  cases disk.lead true mostLinks start (partsTo folderPath) <;> rfl

-----------------------------------------------------------------------------------------
-- The way to the store
-----------------------------------------------------------------------------------------

/-- The folders and links of a file system are there in another one, too; paths start alike. -/
structure WaysKept (disk other : Disk) : Prop where
  current : other.current = disk.current
  folders
    : ∀ place, disk.item? place = some .folder → other.item? place = some .folder
  links
    : ∀ place target,
        disk.item? place = some (.link target) → other.item? place = some (.link target)

/-- Only from a folder can a path lead to a folder. -/
theorem enter_of_lead {toEnd : Bool} {links : Nat} {place reached : List String}
    {parts : List String} (leads : disk.lead toEnd links place parts = .ok reached)
    (isOpen : disk.enter reached = .ok ())
    : disk.enter place = .ok () := by
  cases parts with
  | nil =>
      rw [lead_nil] at leads
      rwa [Except.ok.inj leads]
  | cons part rest =>
      rw [lead] at leads
      cases opens : disk.enter place with
      | error fault => simp [opens] at leads
      | ok _ => rfl

/-- A name stands for the same thing in another file system if the same stands at its place. -/
theorem entry_kept {other : Disk} {place : List String} {item : Item}
    (kept : disk.item? (place ++ [name]) = some item → other.item? (place ++ [name]) = some item)
    (stands : disk.entry place name = .ok item)
    : other.entry place name = .ok item := by
  have isThere := kept (item?_of_standing (standing_of_entry stands))
  rw [entry] at stands ⊢
  split at stands
  · cases stands
  · next short => rw [if_neg short, standing, isThere]

/-- A path to a folder leads there as long as the folders and links are kept: it cannot lead through
files.
-/
theorem lead_kept {other : Disk} (kept : disk.WaysKept other) {toEnd : Bool} {links : Nat}
    {place reached : List String} {parts : List String}
    (leads : disk.lead toEnd links place parts = .ok reached)
    (isOpen : disk.enter reached = .ok ())
    : other.lead toEnd links place parts = .ok reached := by
  have opens {place : List String} (isFolder : disk.enter place = .ok ())
      : other.enter place = .ok () :=
    enter_eq_ok_iff.mpr (kept.folders place (enter_eq_ok_iff.mp isFolder))
  fun_induction disk.lead toEnd links place parts with
  | case1 links place => rw [lead_nil, Except.ok.inj leads]
  | case2 links place part rest fault barred => cases leads
  | case3 links place part rest isFolder mark ih =>
      rw [lead, opens isFolder]
      simp only [if_pos mark, ih leads]
  | case4 links place rest isFolder notMark ih =>
      rw [lead, opens isFolder]
      simp only [if_neg notMark, ih leads, if_true]
  | case5 links place part rest isFolder notMark notUp fault missing => cases leads
  | case6 links place part rest isFolder notMark notUp target isLink ends =>
      have isKept := entry_kept (kept.links _ target) isLink
      rw [lead, opens isFolder]
      simp only [if_neg notMark, if_neg notUp, isKept, if_pos ends, Except.ok.inj leads]
  | case7 place part rest isFolder notMark notUp target isLink more => cases leads
  | case8 place part rest isFolder notMark notUp target isLink more links ih =>
      have isKept := entry_kept (kept.links _ target) isLink
      rw [lead, opens isFolder]
      simp only [if_neg notMark, if_neg notUp, isKept, if_neg more, ih leads]
  | case9 links place part rest isFolder notMark notUp item notLink isItem ih =>
      -- A file cannot be on the way, since nothing can be entered there.
      have isInner := enter_eq_ok_iff.mp (enter_of_lead leads isOpen)
      have same : item = .folder := by
        have isThere := item?_of_standing (standing_of_entry isItem)
        exact Option.some.inj (isThere.symm.trans isInner)
      subst same
      have isKept := entry_kept (kept.folders _) isItem
      rw [lead, opens isFolder]
      simp only [if_neg notMark, if_neg notUp, isKept, ih leads]

/-- The path of a store leads to a folder exactly if all its parts lead there and it can be entered.
-/
theorem storeAt_eq_ok_iff {folder : List String}
    : disk.storeAt folderPath = .ok folder
      ↔ disk.lead true mostLinks (startOf disk.current folderPath)
            (Entry.pathParts folderPath.toList) = .ok folder
        ∧ disk.enter folder = .ok () := by
  rw [storeAt]
  rcases disk.lead true mostLinks (startOf disk.current folderPath)
    (Entry.pathParts folderPath.toList) with fault | reached
  · simp [Except.bind]
  · simp only [Except.bind, entered, Except.ok.injEq]
    constructor
    · intro isEntered
      cases isOpen : disk.enter reached with
      | error fault => simp [isOpen, Except.map] at isEntered
      | ok _ =>
          rw [isOpen] at isEntered
          have same : reached = folder := Except.ok.inj isEntered
          exact ⟨same, same ▸ isOpen⟩
    · rintro ⟨rfl, isOpen⟩
      rw [isOpen]
      rfl

/-- A store stays where it is as long as no way is lost. -/
theorem storeAt_kept {other : Disk} (kept : disk.WaysKept other) {folder : List String}
    (isStore : disk.storeAt folderPath = .ok folder)
    : other.storeAt folderPath = .ok folder := by
  obtain ⟨leads, isOpen⟩ := storeAt_eq_ok_iff.mp isStore
  have isKept := kept.folders folder (enter_eq_ok_iff.mp isOpen)
  refine storeAt_eq_ok_iff.mpr ⟨?_, enter_eq_ok_iff.mpr isKept⟩
  rw [kept.current]
  exact lead_kept kept leads isOpen

/-- No way is lost with a file, for no path leads on from it. -/
theorem waysKept_erase {place : List String} (notFolder : disk.item? place ≠ some .folder)
    (notLink : ∀ target, disk.item? place ≠ some (.link target))
    : disk.WaysKept (disk.erase place notFolder) where
  current := rfl
  folders other isFolder := by
    have apart : other ≠ place := by
      rintro rfl
      exact notFolder isFolder
    rw [item?_erase_of_ne notFolder apart, isFolder]
  links other target isLink := by
    have apart : other ≠ place := by
      rintro rfl
      exact notLink target isLink
    rw [item?_erase_of_ne notFolder apart, isLink]

end Disk

end DesktopAutomation
