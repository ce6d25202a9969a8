import DesktopAutomation.Proofs.Text.Slug
import DesktopAutomation.Store.Basic

/-! The names of documents. They are made of the characters of slugs, start with a letter or a
digit, and end as listings ask for; staging names start with a dot, so neither is ever the other.
-/

namespace DesktopAutomation

/-- What the names of documents have in common. -/
structure IsDocumentName (name : String) : Prop where
  chars : ∀ c ∈ name.toList, Text.isSlugChar c = true
  start : ∀ first, name.toList.head? = some first → Text.isWordChar first = true
  ending : hasDocumentEnding name = true

/-- A name that a folder can be asked for. -/
structure LegalName (name : String) : Prop where
  chars : '\x00' ∉ name.toList
  short : name.utf8ByteSize ≤ longestName

/-- The name of a document is that of a text with the form of slugs, and the ending. -/
theorem isDocumentName_append {stem : String} (isSome : stem ≠ "")
    (isSlug : Text.IsSlug stem.toList)
    : IsDocumentName (stem ++ ".json") where
  chars := by
    rw [String.toList_append, List.forall_mem_append]
    exact ⟨isSlug.chars, List.all_eq_true.mp (by decide)⟩
  start first isFirst := by
    have nonempty : stem.toList ≠ [] := fun none => isSome (String.toList_eq_nil_iff.mp none)
    obtain ⟨c, rest, whole⟩ := List.exists_cons_of_ne_nil nonempty
    rw [String.toList_append, whole] at isFirst
    exact isSlug.start first (whole ▸ isFirst)
  ending := by
    have longer : stem ++ ".json" ≠ ".json" := fun same =>
      isSome (String.append_eq_right_iff.mp same)
    rw [hasDocumentEnding, String.toList_append, bne_iff_ne.mpr longer, Bool.and_true,
      List.isSuffixOf_iff_suffix]
    exact List.suffix_append _ _

/-- The name of the file for a title with a slug. -/
def nameOfSlug (slug : String) : String :=
  (if slug = "" then "automation" else slug) ++ ".json"

theorem isDocumentName_nameOfSlug {slug : String} (isSlug : Text.IsSlug slug.toList)
    : IsDocumentName (nameOfSlug slug) := by
  rw [nameOfSlug]
  split
  · refine isDocumentName_append (by decide) ⟨List.all_eq_true.mp (by decide), ?_, ?_⟩ <;>
      simp [Text.isWordChar]
  · next isSome => exact isDocumentName_append isSome isSlug

theorem isDocumentName_fileNameOf (title : String) : IsDocumentName (fileNameOf title) :=
  isDocumentName_nameOfSlug (Text.isSlug_slugify title)

/-- The staging name is longer than the name itself by five bytes. -/
theorem SaveOrder.utf8ByteSize_stagingName (order : SaveOrder)
    : order.stagingName.utf8ByteSize = order.fileName.utf8ByteSize + 5 := by
  have dot : ".".utf8ByteSize = 1 := rfl
  have ending : ".tmp".utf8ByteSize = 4 := rfl
  rw [stagingName, String.utf8ByteSize_append, String.utf8ByteSize_append]
  omega

namespace IsDocumentName
variable {name : String}

theorem legal (isName : IsDocumentName name) (short : name.utf8ByteSize ≤ longestName)
    : LegalName name where
  chars member := absurd (isName.chars _ member) (by decide)
  short := short

/-- The staging name of a document is never that of a document. -/
theorem ne_stagingName (isName : IsDocumentName name) (order : SaveOrder)
    : name ≠ order.stagingName := by
  rintro rfl
  have dotted : order.stagingName.toList.head? = some '.' := by
    rw [SaveOrder.stagingName, String.toList_append, String.toList_append]
    rfl
  exact absurd (isName.start _ dotted) (by decide)

theorem legal_stagingName {order : SaveOrder} (isName : IsDocumentName order.fileName)
    (short : order.fileName.utf8ByteSize + 5 ≤ longestName)
    : LegalName order.stagingName where
  chars member := by
    rw [SaveOrder.stagingName, String.toList_append, String.toList_append, List.mem_append,
      List.mem_append] at member
    rcases member with (inDot | inName) | inEnding
    · exact absurd inDot (by decide)
    · exact absurd (isName.chars _ inName) (by decide)
    · exact absurd inEnding (by decide)
  short := by rwa [order.utf8ByteSize_stagingName]

end IsDocumentName

end DesktopAutomation
