import DesktopAutomation.Proofs.Store.Names
import DesktopAutomation.Proofs.Text.Split

/-! The names that a store derives from titles. A name is plain if it is the last name on the path
that it is, and listings tell documents by what stands behind the last dot; every name that is
derived passes both checks, and none is a staging name.
-/

namespace DesktopAutomation

-----------------------------------------------------------------------------------------
-- Paths
-----------------------------------------------------------------------------------------

/-- A name that stands for an entry of a folder: it is a single part of a path, and no mark that
leads elsewhere.
-/
structure IsEntryName (name : String) : Prop where
  isSome : name ≠ ""
  single : '/' ∉ name.toList
  notHere : name ≠ "."
  notUp : name ≠ ".."

/-- What stands behind the last dot of a name, if something stands before it. -/
def extension? (name : String) : Option String :=
  let before := (name.toList.rdropWhile (· != '.')).dropLast
  if name = ".." ∨ before = [] then none
  else some (String.ofList (name.toList.rtakeWhile (· != '.')))

theorem split_of_not_mem {name : String} (plain : '/' ∉ name.toList)
    : Text.split name "/" = [name] := by
  have separates := Text.split_separates (by decide : "/" ≠ "") name
  have whole := separates.eq_singleton fun holds => plain ((List.singleton_infix_iff _ _).mp holds)
  obtain ⟨piece, parts, same⟩ := List.map_eq_singleton_iff.mp whole
  rw [parts, String.toList_inj.mp same]

theorem not_mem_of_mem_split {path name : String} (isPiece : name ∈ Text.split path "/")
    : '/' ∉ name.toList := by
  have separates := Text.split_separates (by decide : "/" ≠ "") path
  intro member
  exact separates.apart _ (List.mem_map_of_mem isPiece) ((List.singleton_infix_iff _ _).mpr member)

/-- A name is plain exactly if it is the last name on itself. -/
theorem isPlainName_iff (name : String)
    : isPlainName name = true ↔ name ≠ "" ∧ lastName? name = some name := by
  rw [isPlainName, Bool.and_eq_true, bne_iff_ne, beq_iff_eq]

/-- No name of an entry is refused, and no path slips through: the last name on a path is one of the
pieces between its slashes, so a path with a slash is not the last name on itself.
-/
theorem isPlainName_iff_isEntryName (name : String)
    : isPlainName name = true ↔ IsEntryName name := by
  rw [isPlainName_iff, lastName?, Option.filter_eq_some_iff, bne_iff_ne]
  constructor
  · rintro ⟨isSome, isLast, notUp⟩
    obtain ⟨isPiece, isName⟩ := List.mem_filter.mp (List.mem_of_getLast? isLast)
    rw [Bool.and_eq_true, bne_iff_ne, bne_iff_ne] at isName
    exact ⟨isSome, not_mem_of_mem_split isPiece, isName.2, notUp⟩
  · rintro ⟨isSome, single, notHere, notUp⟩
    have whole := split_of_not_mem single
    simp [whole, isSome, notHere, notUp]

theorem extension?_eq_some_iff {name extension : String}
    : extension? name = some extension
      ↔ name ≠ ".."
        ∧ '.' ∉ extension.toList
        ∧ ∃ stem, stem ≠ [] ∧ name.toList = stem ++ '.' :: extension.toList := by
  constructor
  · intro isExtension
    rw [extension?] at isExtension
    split at isExtension
    · simp at isExtension
    · next isNamed =>
        obtain ⟨notUp, isSome⟩ := not_or.mp isNamed
        obtain rfl := Option.some.inj isExtension
        rw [String.toList_ofList]
        refine ⟨notUp, fun dotted => ?_, _, isSome, ?_⟩
        · exact absurd (List.mem_rtakeWhile_imp dotted) (by decide)
        · have isLonger : name.toList.rdropWhile (· != '.') ≠ [] := fun isNil =>
            isSome (by rw [isNil, List.dropLast_nil])
          have dot : (name.toList.rdropWhile (· != '.')).getLast isLonger = '.' := by
            simpa using List.rdropWhile_last_not _ _ isLonger
          have parts := List.dropLast_append_getLast isLonger
          rw [dot] at parts
          rw [List.append_cons, parts, List.rdropWhile_append_rtakeWhile]
  · rintro ⟨notUp, plain, stem, isSome, parts⟩
    have others : ∀ c ∈ extension.toList.reverse, (c != '.') = true := fun c member =>
      bne_iff_ne.mpr fun isDot => plain (isDot ▸ List.mem_reverse.mp member)
    have turned : name.toList.reverse
        = extension.toList.reverse ++ '.' :: stem.reverse := by rw [parts]; simp
    have before : name.toList.rdropWhile (· != '.') = stem ++ ['.'] := by
      rw [List.rdropWhile, turned, List.dropWhile_append_of_pos others]
      simp
    have behind : name.toList.rtakeWhile (· != '.') = extension.toList := by
      rw [List.rtakeWhile, turned, List.takeWhile_append_of_pos others]
      simp
    rw [extension?, before, behind, List.dropLast_concat, String.ofList_toList,
      if_neg (not_or.mpr ⟨notUp, isSome⟩)]

/-- Listings tell documents by their extension. -/
theorem hasDocumentEnding_iff (name : String)
    : hasDocumentEnding name = true ↔ extension? name = some "json" := by
  rw [hasDocumentEnding, Bool.and_eq_true, List.isSuffixOf_iff_suffix, bne_iff_ne,
    extension?_eq_some_iff]
  have ending : ".json".toList = '.' :: "json".toList := rfl
  constructor
  · rintro ⟨⟨stem, parts⟩, isLonger⟩
    refine ⟨?_, by decide, stem, ?_, by rw [← parts, ending]⟩
    · rintro rfl
      exact absurd (congrArg List.getLast? parts) (by simp)
    · rintro rfl
      exact isLonger (String.toList_inj.mp parts.symm)
  · rintro ⟨-, -, stem, isSome, parts⟩
    refine ⟨⟨stem, by rw [parts, ending]⟩, ?_⟩
    rintro rfl
    exact isSome (List.append_left_eq_self.mp parts.symm)

-----------------------------------------------------------------------------------------
-- Derived names
-----------------------------------------------------------------------------------------

/-- Titles have slugs, which are their own slugs, and the names of their files pass the check before
a file is looked up and the one of listings, and are no staging names.
-/
structure UsableNames (slugOf nameOf : String → String) : Prop where
  slugs : ∀ title, Text.IsSlug (slugOf title).toList
  settled : ∀ title, slugOf (slugOf title) = slugOf title
  plain
    : ∀ title,
        isPlainName (nameOf title) = true ∧ lastName? (nameOf title) = some (nameOf title)
  listed
    : ∀ title,
        hasDocumentEnding (nameOf title) = true ∧ extension? (nameOf title) = some "json"
  unstaged : ∀ title (order : SaveOrder), nameOf title ≠ order.stagingName

/-- The name of a document is neither empty nor a path, since it has no slash and starts with a
letter or a digit.
-/
theorem IsDocumentName.plain {name : String} (isName : IsDocumentName name)
    : isPlainName name = true := by
  have noSlash : '/' ∉ name.toList := fun member => absurd (isName.chars _ member) (by decide)
  have isSome : name ≠ "" := by
    rintro rfl
    exact absurd isName.ending (by decide)
  have undotted : name.toList.head? ≠ some '.' := fun starts =>
    absurd (isName.start _ starts) (by decide)
  have notDots : name ≠ "." ∧ name ≠ ".." := by
    constructor <;> exact fun same => undotted (same ▸ rfl)
  exact (isPlainName_iff_isEntryName name).mpr ⟨isSome, noSlash, notDots.1, notDots.2⟩

/-- Where decomposition leaves ASCII as it is, slugs are settled and the names of files can be used.
-/
theorem usable_slugBy {decompose : List Char → List Char} (leaves : Text.LeavesAscii decompose)
    : UsableNames (Text.slugBy decompose) (nameOfSlug ∘ Text.slugBy decompose) := by
  have isName (title : String) : IsDocumentName (nameOfSlug (Text.slugBy decompose title)) :=
    isDocumentName_nameOfSlug (Text.isSlug_slugOfDecomposed _)
  constructor
  · exact fun title => Text.isSlug_slugOfDecomposed _
  · exact fun title => Text.slugBy_slugBy leaves title
  · intro title
    have plain := (isName title).plain
    exact ⟨plain, ((isPlainName_iff _).mp plain).2⟩
  · intro title
    have listed := (isName title).ending
    exact ⟨listed, (hasDocumentEnding_iff _).mp listed⟩
  · exact fun title => (isName title).ne_stagingName

/-- The names of files for titles can always be used, whatever function decomposes texts, if it
leaves ASCII as it is.
-/
theorem fileNames_usable
    : UsableNames Text.slugify fileNameOf
      ∧ ∀ decompose, Text.LeavesAscii decompose →
          UsableNames (Text.slugBy decompose) (nameOfSlug ∘ Text.slugBy decompose) := by
  constructor
  · have names : fileNameOf = nameOfSlug ∘ Text.slugify := rfl
    rw [names, Text.slugify_eq_slugBy]
    exact usable_slugBy Text.leavesAscii_asciiBase?
  · exact fun decompose => usable_slugBy

/-- The title leads upwards and has an accent, which decomposition splits off its letter. -/
theorem fileNames_usable_accented
    : let decompose : List Char → List Char :=
        List.flatMap fun c => if c = 'é' then ['e', '\u0301'] else [c]
      let slugOf := Text.slugBy decompose
      let title := "../Café, No_1."
      let name := "cafe.-no_1.json"
      Text.LeavesAscii decompose
      ∧ slugOf title = "cafe.-no_1"
      ∧ slugOf "cafe.-no_1" = "cafe.-no_1"
      ∧ nameOfSlug (slugOf title) = name
      ∧ fileNameOf title = name
      ∧ lastName? name = some name
      ∧ extension? name = some "json"
      ∧ ∀ order : SaveOrder, name ≠ order.stagingName := by
  intro decompose slugOf title name
  have leaves : Text.LeavesAscii decompose := by
    refine Text.leavesAscii_flatMap fun c ascii => if_neg ?_
    rintro rfl
    exact absurd ascii (by decide)
  have isSlug : slugOf title = "cafe.-no_1" := by decide +kernel
  have isName : (nameOfSlug ∘ slugOf) title = name := by
    rw [Function.comp_apply, isSlug]
    rfl
  have isNameToo : fileNameOf title = name := by decide +kernel
  obtain ⟨-, usable⟩ := fileNames_usable
  obtain ⟨-, settled, plain, listed, unstaged⟩ := usable decompose leaves
  have again : slugOf (slugOf title) = slugOf title := settled title
  have isLast := (plain title).2
  have isExtension := (listed title).2
  have isUnstaged := unstaged title
  rw [isName] at isLast isExtension isUnstaged
  rw [isSlug] at again
  exact ⟨leaves, isSlug, again, isName, isNameToo, isLast, isExtension, isUnstaged⟩

end DesktopAutomation
