import DesktopAutomation.Proofs.NameMap
import DesktopAutomation.Proofs.Store.Names

/-! What the calls on a folder do when they are given legal names: they find the entries with these
names, and nothing else stops them.
-/

namespace DesktopAutomation

/-- A folder is asked for a legal name in any case. -/
theorem LegalName.followable {name : String} (legal : LegalName name)
    : ¬(name.toList.contains '\x00' = true ∨ longestPath < name.utf8ByteSize) := by
  have path : longestName ≤ longestPath := by decide
  simpa [legal.chars] using Nat.le_trans legal.short path

namespace Folder
variable {name : String}

@[simp] theorem find?_present (entries : NameMap Entry) (name : String)
    : (Folder.present entries).find? name = entries.find? name :=
  rfl

/-- Where there is no folder, no legal name is found. -/
theorem access_absent (legal : LegalName name) : Folder.absent.access name = .error .notFound := by
  rw [access, if_neg legal.followable]

/-- A folder may be asked for every legal name. -/
theorem access_present (legal : LegalName name) (entries : NameMap Entry)
    : (Folder.present entries).access name = .ok entries := by
  rw [access, if_neg legal.followable]
  exact if_neg (Nat.not_lt.mpr legal.short)

/-- What is done with the entries of a folder is done if the name is legal. -/
theorem access_present_bind {α : Type} (legal : LegalName name) (entries : NameMap Entry)
    (next : NameMap Entry → Except FileFault α)
    : (Folder.present entries).access name >>= next = next entries := by
  rw [access_present legal]
  rfl

/-- Entries are looked up in a folder that is there. -/
theorem access_eq_ok {folder : Folder} {entries : NameMap Entry}
    (asked : folder.access name = .ok entries)
    : folder = .present entries := by
  unfold access at asked
  split at asked
  · cases asked
  · cases folder with
    | absent => cases asked
    | file => cases asked
    | present own =>
        dsimp only at asked
        split at asked
        · cases asked
        · rw [Except.ok.inj asked]

/-- Writing under a free name makes a new file. -/
theorem write_free (legal : LegalName name) {entries : NameMap Entry}
    (free : entries.find? name = none) (content : ByteArray)
    : (Folder.present entries).write name content
      = .ok (.present (entries.insert name (.file (freshMark entries) content))) := by
  rw [write, access_present_bind legal, free]

/-- Writing over a file changes its content, under all its names. -/
theorem write_file (legal : LegalName name) {entries : NameMap Entry} {mark : Nat}
    {old : ByteArray} (isFile : entries.find? name = some (.file mark old)) (content : ByteArray)
    : (Folder.present entries).write name content
      = .ok (.present (setContent mark content entries)) := by
  rw [write, access_present_bind legal, isFile]

/-- Setting the content of a file changes what its names stand for, and nothing else. -/
theorem find?_setContent (mark : Nat) (content : ByteArray) (entries : NameMap Entry)
    (name : String)
    : (setContent mark content entries).find? name
      = (entries.find? name).map fun
          | .file own old => if own = mark then .file own content else .file own old
          | .folder inner => .folder inner :=
  NameMap.find?_map ..

/-- A mark that is greater than that of an entry, and not below a given one. -/
def markAbove (mark : Nat) (entry : String × Entry) : Nat :=
  match entry.2 with
  | .file own _ => max mark (own + 1)
  | .folder _ => mark

/-- A mark above an entry is no less than the mark so far. -/
theorem le_markAbove (mark : Nat) (entry : String × Entry) : mark ≤ markAbove mark entry := by
  rw [markAbove]
  split <;> omega

/-- A mark above some entries is no less than the mark to begin with. -/
theorem le_foldl_markAbove (mark : Nat) (entries : List (String × Entry))
    : mark ≤ entries.foldl markAbove mark := by
  induction entries generalizing mark with
  | nil => exact Nat.le_refl mark
  | cons entry rest ih => exact Nat.le_trans (le_markAbove mark entry) (ih _)

/-- A mark above some entries is above that of each file among them. -/
theorem lt_foldl_markAbove {name : String} {own : Nat} {content : ByteArray} (mark : Nat)
    {entries : List (String × Entry)} (member : (name, .file own content) ∈ entries)
    : own < entries.foldl markAbove mark := by
  induction entries generalizing mark with
  | nil => simp at member
  | cons entry rest ih =>
      rcases List.mem_cons.mp member with rfl | inRest
      · refine Nat.lt_of_lt_of_le ?_ (le_foldl_markAbove _ rest)
        simp only [markAbove]
        omega
      · exact ih _ inRest

theorem freshMark_empty : freshMark .empty = 0 := rfl

/-- The mark for a new file is greater than those of all files. -/
theorem mark_lt_freshMark {entries : NameMap Entry} {mark : Nat} {content : ByteArray}
    (isFile : entries.find? name = some (.file mark content))
    : mark < freshMark entries :=
  lt_foldl_markAbove 0 ((NameMap.find?_eq_some_iff ..).mp isFile)

/-- A file gets a second name unless this is taken. -/
theorem link_file {second : String} (legal : LegalName name) (secondLegal : LegalName second)
    {entries : NameMap Entry} {mark : Nat} {content : ByteArray}
    (isFile : entries.find? name = some (.file mark content))
    : (Folder.present entries).link name second
      = if entries.contains second then .error .alreadyExists
        else .ok (.present (entries.insert second (.file mark content))) := by
  rw [link, access_present_bind legal, isFile]
  exact access_present_bind secondLegal entries _

/-- A name that stands for nothing cannot be given another one. -/
theorem link_missing {second : String} (legal : LegalName name) {entries : NameMap Entry}
    (missing : entries.find? name = none)
    : (Folder.present entries).link name second = .error .notFound := by
  rw [link, access_present_bind legal, missing]

/-- A file is read as its content. -/
theorem read_file (legal : LegalName name) {entries : NameMap Entry} {mark : Nat}
    {content : ByteArray} (isFile : entries.find? name = some (.file mark content))
    : (Folder.present entries).read name = .ok content := by
  rw [read, access_present_bind legal, isFile]

/-- A legal name shows the entry with this name. -/
theorem look_eq {folder : Folder} (isFolder : folder ≠ .file) (legal : LegalName name)
    : folder.look name = ((folder.find? name).map Entry.look).getD .missing := by
  cases folder with
  | absent => rw [look, access_absent legal]; rfl
  | file => exact absurd rfl isFolder
  | present entries => rw [look, access_present legal]; rfl

/-- A file that is there loses its name. -/
theorem unlink_file (legal : LegalName name) {entries : NameMap Entry} {mark : Nat}
    {content : ByteArray} (isFile : entries.find? name = some (.file mark content))
    : (Folder.present entries).unlink name = .ok (.present (entries.erase name)) := by
  rw [unlink, access_present_bind legal, isFile]

/-- A name that stands for nothing cannot be dropped. -/
theorem unlink_missing {folder : Folder} (isFolder : folder ≠ .file) (legal : LegalName name)
    (missing : folder.find? name = none)
    : folder.unlink name = .error .notFound := by
  cases folder with
  | absent => rw [unlink, access_absent legal]; rfl
  | file => exact absurd rfl isFolder
  | present entries =>
      rw [find?, Folder.entries] at missing
      rw [unlink, access_present_bind legal, missing]

end Folder

end DesktopAutomation
