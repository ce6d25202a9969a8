import DesktopAutomation.Proofs.Store.Saving
import Mathlib.Logic.Function.Basic

/-! Two savings under one name at the same time, with their calls in any order. The name goes to one
of them at most. As both write to one staging file, the one that gets the name may find the text of
the other under it: if this text was written while its own was staged.
-/

namespace DesktopAutomation

-----------------------------------------------------------------------------------------
-- Turns
-----------------------------------------------------------------------------------------

/-- One of two who save. -/
inductive Saver
  | left
  | right
deriving DecidableEq, Repr

namespace Saver

/-- The other one. -/
def rival : Saver → Saver
  | .left => .right
  | .right => .left

theorem rival_ne (saver : Saver) : saver.rival ≠ saver := by cases saver <;> decide

@[simp] theorem rival_rival (saver : Saver) : saver.rival.rival = saver := by cases saver <;> rfl

/-- Whoever it is, it is the one or the other. -/
theorem eq_or_eq_rival (saver other : Saver) : other = saver ∨ other = saver.rival := by
  cases saver <;> cases other <;> simp [rival]

/-- What holds of one and of the other holds of both. -/
theorem forall_iff {holds : Saver → Prop} (saver : Saver)
    : (∀ other, holds other) ↔ holds saver ∧ holds saver.rival := by
  refine ⟨fun all => ⟨all saver, all saver.rival⟩, fun both other => ?_⟩
  rcases saver.eq_or_eq_rival other with rfl | rfl
  · exact both.1
  · exact both.2

end Saver

namespace Saving

/-- The text is in the staging file, which may already have the final name, too. -/
def isStaged : Saving → Bool
  | .publishing | .discarding none => true
  | _ => false

/-- The staging file was given the final name. -/
def isPublished : Saving → Bool
  | .discarding none | .finished none => true
  | _ => false

def isFinished : Saving → Bool
  | .finished _ => true
  | _ => false

end Saving

/-- Two savings into one folder, and which of them was overwritten: the other one wrote its text to
the staging file while its own was staged.
-/
structure Race where
  saving : Saver → Saving
  folder : Folder
  overwritten : Saver → Bool

namespace Race

/-- Two savings before their first calls. -/
def start (folder : Folder) : Race := ⟨fun _ => .making, folder, fun _ => false⟩

/-- The next call of one saving. -/
def turn (orders : Saver → SaveOrder) (race : Race) (saver : Saver) : Race :=
  let (next, changed) := (race.saving saver).step (orders saver) race.folder
  { saving := Function.update race.saving saver next
    folder := changed
    overwritten := fun other =>
      race.overwritten other
        || other == saver.rival && race.saving saver == .staging && (race.saving other).isStaged }

/-- A number of calls, in the order of the savers. -/
def run (orders : Saver → SaveOrder) (race : Race) (turns : List Saver) : Race :=
  turns.foldl (turn orders) race

/-- The text that a saving gives to its name: its own, unless it was overwritten. -/
def textOf (orders : Saver → SaveOrder) (race : Race) (saver : Saver) : ByteArray :=
  (orders (if race.overwritten saver then saver.rival else saver)).content

/-- One saving makes a call: the other is as far as before, but it may be overwritten. -/
structure Turns (race after : Race) (saver : Saver) (next : Saving) (changed : Folder) : Prop where
  own : after.saving saver = next
  other : after.saving saver.rival = race.saving saver.rival
  folder : after.folder = changed
  kept : after.overwritten saver = race.overwritten saver
  struck
    : after.overwritten saver.rival
      = (race.overwritten saver.rival
          || race.saving saver == .staging && (race.saving saver.rival).isStaged)

/-- The next call of a saving is a turn of it. -/
theorem turns_turn (orders : Saver → SaveOrder) {race : Race} {saver : Saver} {next : Saving}
    {changed : Folder}
    (step : (race.saving saver).step (orders saver) race.folder = (next, changed))
    : Turns race (race.turn orders saver) saver next changed := by
  have apart := saver.rival_ne
  constructor <;> simp [turn, step, Function.update_of_ne apart, apart.symm]

-----------------------------------------------------------------------------------------
-- What every call keeps
-----------------------------------------------------------------------------------------

/-- How one saving stands in a folder whose staging name may be used.
While its text is staged, the staging file is there unless the other saving is over, and holds what
it gives to its name. Behind that it has the name alone; and what is written to the staging file
later on does not reach the file with this name once the staging name was dropped.
-/
structure Stands (orders : Saver → SaveOrder) (staging name : String) (race : Race)
    (saver : Saver) : Prop where
  made : race.saving saver ≠ .making → ∃ entries, race.folder = .present entries
  unspoilt
    : race.saving saver = .making ∨ race.saving saver = .staging
      → race.overwritten saver = false
  staged
    : (race.saving saver).isStaged = true
      → (race.saving saver.rival).isFinished = false
      → race.folder.find? staging ≠ none
  text
    : ∀ mark content,
        race.saving saver = .publishing
        → race.folder.find? staging = some (.file mark content)
        → content = race.textOf orders saver
  published
    : (race.saving saver).isPublished = true
      → ∃ mark,
          race.folder.find? name = some (.file mark (race.textOf orders saver))
          ∧ ∀ other content,
              race.folder.find? staging = some (.file other content)
              → (other = mark ↔ race.saving saver = .discarding none)

/-- How two savings stand in a folder: it is one, no folder has the staging name, and the final name
is that of one of them if it is in use.
-/
structure Orderly (orders : Saver → SaveOrder) (staging name : String) (race : Race) : Prop where
  isFolder : race.folder ≠ .file
  noInner : ∀ inner, race.folder.find? staging ≠ some (.folder inner)
  stands : ∀ saver, Stands orders staging name race saver
  taken
    : race.folder.find? name ≠ none → ∃ saver, (race.saving saver).isPublished = true
  exclusive
    : ∀ saver,
        (race.saving saver).isPublished = true
        → (race.saving saver.rival).isPublished = false

/-- Two savings are in order before their first calls, if something can be staged and the name is
free.
-/
theorem orderly_start (orders : Saver → SaveOrder) {staging name : String} {folder : Folder}
    (isFolder : folder ≠ .file) (noInner : ∀ inner, folder.find? staging ≠ some (.folder inner))
    (free : folder.find? name = none)
    : Orderly orders staging name (start folder) where
  isFolder := isFolder
  noInner := noInner
  stands _ := by constructor <;> simp [start, Saving.isStaged, Saving.isPublished]
  taken bound := absurd free bound
  exclusive _ isPublished := by simp [start, Saving.isPublished] at isPublished

/-- A saving goes on and leaves all entries as they are: it stages and publishes nothing anew. -/
structure Passes (race after : Race) (saver : Saver) (staging : String) : Prop where
  other : after.saving saver.rival = race.saving saver.rival
  overwritten : ∀ either, after.overwritten either = race.overwritten either
  made : ∃ entries, after.folder = .present entries
  look : ∀ name, after.folder.find? name = race.folder.find? name
  early
    : after.saving saver = .making ∨ after.saving saver = .staging
      → race.saving saver = .making ∨ race.saving saver = .staging
  notPublishing : after.saving saver ≠ .publishing
  staged : (after.saving saver).isStaged = true → (race.saving saver).isStaged = true
  finished : (race.saving saver).isFinished = true → (after.saving saver).isFinished = true
  published : (after.saving saver).isPublished = (race.saving saver).isPublished
  dropped
    : race.folder.find? staging = none
      ∨ (after.saving saver = .discarding none ↔ race.saving saver = .discarding none)

section
variable {orders : Saver → SaveOrder} {staging name : String} {race after : Race} {saver : Saver}

theorem look_of_present {entries : NameMap Entry} (present : race.folder = .present entries)
    (sought : String)
    : entries.find? sought = race.folder.find? sought := by
  rw [present, Folder.find?_present]

/-- A saving gives the same text to its name as long as nothing overwrites it. -/
theorem textOf_eq (same : ∀ either, after.overwritten either = race.overwritten either)
    (either : Saver)
    : after.textOf orders either = race.textOf orders either := by
  rw [textOf, same, textOf]

theorem Passes.textOf (passes : Passes race after saver staging) (either : Saver)
    : after.textOf orders either = race.textOf orders either :=
  textOf_eq passes.overwritten either

/-- No saving publishes anything. -/
theorem Passes.isPublished_eq (passes : Passes race after saver staging)
    : ∀ either, (after.saving either).isPublished = (race.saving either).isPublished :=
  (Saver.forall_iff saver).mpr ⟨passes.published, by rw [passes.other]⟩

/-- The saving that goes on stands as it did: all that is asked of it was asked before. -/
theorem Passes.stands_own (passes : Passes race after saver staging)
    (own : Stands orders staging name race saver)
    : Stands orders staging name after saver where
  made _ := passes.made
  unspoilt early := (passes.overwritten saver).trans (own.unspoilt (passes.early early))
  staged := by
    rw [passes.look, passes.other]
    exact fun isStaged => own.staged (passes.staged isStaged)
  text _ _ publishing := absurd publishing passes.notPublishing
  published := by
    rw [passes.published]
    intro isPublished
    obtain ⟨mark, found, apart⟩ := own.published isPublished
    refine ⟨mark, by rw [passes.look, passes.textOf, found], ?_⟩
    rw [passes.look]
    intro otherMark content isFile
    rcases passes.dropped with missing | same
    · simp [missing] at isFile
    · rw [apart otherMark content isFile, same]

/-- The other saving stands as it did, for neither its phase nor an entry has changed. -/
theorem Passes.stands_rival (passes : Passes race after saver staging)
    (rival : Stands orders staging name race saver.rival)
    : Stands orders staging name after saver.rival where
  made _ := passes.made
  unspoilt := by
    rw [passes.other, passes.overwritten]
    exact rival.unspoilt
  staged := by
    rw [passes.other, passes.look, Saver.rival_rival]
    intro isStaged unfinished
    refine rival.staged isStaged ?_
    rw [Saver.rival_rival]
    exact Bool.eq_false_iff.mpr fun finished =>
      Bool.eq_false_iff.mp unfinished (passes.finished finished)
  text := by
    rw [passes.other, passes.look, passes.textOf]
    exact rival.text
  published := by
    rw [passes.other]
    simp only [passes.look, passes.textOf]
    exact rival.published

/-- A saving that goes on in this way keeps the order. -/
theorem Passes.orderly (passes : Passes race after saver staging)
    (orderly : Orderly orders staging name race)
    : Orderly orders staging name after where
  isFolder := by
    obtain ⟨entries, present⟩ := passes.made
    simp [present]
  noInner := by simpa only [passes.look] using orderly.noInner
  stands := (Saver.forall_iff saver).mpr
    ⟨passes.stands_own (orderly.stands saver), passes.stands_rival (orderly.stands saver.rival)⟩
  taken := by simpa only [passes.look, passes.isPublished_eq] using orderly.taken
  exclusive := by simpa only [passes.isPublished_eq] using orderly.exclusive

/-- A call that is no writing overwrites nothing. -/
theorem Turns.overwritten_eq {next : Saving} {changed : Folder}
    (turns : Turns race after saver next changed) (phase : race.saving saver ≠ .staging)
    : ∀ either, after.overwritten either = race.overwritten either := by
  refine (Saver.forall_iff saver).mpr ⟨turns.kept, ?_⟩
  simp [turns.struck, phase]

/-- The phases around a call that leaves the entries as they are. A saving is not over without
dropping the staging name unless this is missing.
-/
inductive Idle (missing : Prop) : Saving → Saving → Prop
  | made : Idle missing .making .staging
  | refused (error : AutomationError) : Idle missing .publishing (.discarding (some error))
  | left (outcome : Option AutomationError) (isMissing : missing)
    : Idle missing (.discarding outcome) (.finished outcome)
  | finished (outcome : Option AutomationError)
    : Idle missing (.finished outcome) (.finished outcome)

/-- A call that leaves the entries as they are only lets its saving go on, phase by phase. -/
theorem Turns.passes {next : Saving} {entries : NameMap Entry}
    (turns : Turns race after saver next (.present entries))
    (look : ∀ sought, entries.find? sought = race.folder.find? sought)
    (idle : Idle (race.folder.find? staging = none) (race.saving saver) next)
    : Passes race after saver staging := by
  have own := turns.own
  have same := turns.overwritten_eq (by rintro phase; rw [phase] at idle; cases idle)
  generalize phase : race.saving saver = before at idle
  cases idle with
  | made =>
      constructor <;> simp [turns.other, turns.folder, own, phase, look, same,
        Saving.isStaged, Saving.isFinished, Saving.isPublished]
  | refused error =>
      constructor <;> simp [turns.other, turns.folder, own, phase, look, same,
        Saving.isStaged, Saving.isFinished, Saving.isPublished]
  | left outcome isMissing =>
      constructor <;> simp [turns.other, turns.folder, own, phase, look, same, isMissing,
        Saving.isStaged, Saving.isFinished]
      cases outcome <;> rfl
  | finished outcome =>
      constructor <;> simp [turns.other, turns.folder, own, phase, look, same]

/-- A saving writes its text over the staging file, or to a new one. The first reaches a file that
shares the staging file, the second reaches no other file.
-/
structure Writes (orders : Saver → SaveOrder) (staging name : String) (race after : Race)
    (saver : Saver) (entries changed : NameMap Entry) (mark : Nat) : Prop where
  phase : race.saving saver = .staging
  present : race.folder = .present entries
  turns : Turns race after saver .publishing (.present changed)
  isStaged : changed.find? staging = some (.file mark (orders saver).content)
  free : entries.find? name = none → changed.find? name = none
  shared
    : race.saving saver.rival = .discarding none
      → changed.find? name = some (.file mark (orders saver).content)
  apart
    : race.saving saver.rival = .finished none
      → changed.find? name = entries.find? name
        ∧ ∀ content, entries.find? name ≠ some (.file mark content)

namespace Writes
variable {entries changed : NameMap Entry} {mark : Nat}

theorem look (writes : Writes orders staging name race after saver entries changed mark)
    (sought : String)
    : after.folder.find? sought = changed.find? sought := by
  rw [writes.turns.folder, Folder.find?_present]

/-- The text of the other saving is overwritten if it is staged. -/
theorem textOf_rival (writes : Writes orders staging name race after saver entries changed mark)
    (struck : (race.saving saver.rival).isStaged = true)
    : after.textOf orders saver.rival = (orders saver).content := by
  simp [Race.textOf, writes.turns.struck, writes.phase, struck]

/-- The saving that writes has its own text in the staging file. -/
theorem stands_own (writes : Writes orders staging name race after saver entries changed mark)
    (own : Stands orders staging name race saver)
    : Stands orders staging name after saver := by
  have unspoilt : after.overwritten saver = false :=
    writes.turns.kept.trans (own.unspoilt (.inr writes.phase))
  constructor
  · exact fun _ => ⟨changed, writes.turns.folder⟩
  · simp [writes.turns.own]
  · simp [writes.look, writes.isStaged]
  · simp [writes.look, writes.isStaged, Race.textOf, unspoilt]
  · simp [writes.turns.own, Saving.isPublished]

/-- If the other saving has published its file, this still shares the staging file, and now holds
the text that was written; or it is over, and its file is another one and keeps its text.
-/
theorem published_rival
    (writes : Writes orders staging name race after saver entries changed mark)
    (rival : Stands orders staging name race saver.rival)
    (isPublished : (race.saving saver.rival).isPublished = true)
    : ∃ published,
        changed.find? name = some (.file published (after.textOf orders saver.rival))
        ∧ (mark = published ↔ race.saving saver.rival = .discarding none) := by
  cases phase : race.saving saver.rival with
  | making => simp [phase, Saving.isPublished] at isPublished
  | staging => simp [phase, Saving.isPublished] at isPublished
  | publishing => simp [phase, Saving.isPublished] at isPublished
  | discarding outcome =>
      cases outcome with
      | some error => simp [phase, Saving.isPublished] at isPublished
      | none =>
          refine ⟨mark, ?_, by simp⟩
          rw [writes.shared phase, writes.textOf_rival (by rw [phase]; rfl)]
  | finished outcome =>
      cases outcome with
      | some error => simp [phase, Saving.isPublished] at isPublished
      | none =>
          obtain ⟨same, differs⟩ := writes.apart phase
          obtain ⟨published, found, _⟩ := rival.published isPublished
          rw [writes.present] at found
          have text : after.textOf orders saver.rival = race.textOf orders saver.rival := by
            simp [Race.textOf, writes.turns.struck, phase, Saving.isStaged]
          refine ⟨published, by rw [same, text]; exact found, ?_⟩
          simp only [reduceCtorEq, iff_false]
          rintro rfl
          exact differs _ found

/-- The other saving gives what was written to its name if its text was staged before, and else what
it did.
-/
theorem stands_rival (writes : Writes orders staging name race after saver entries changed mark)
    (rival : Stands orders staging name race saver.rival)
    : Stands orders staging name after saver.rival := by
  constructor
  · exact fun _ => ⟨changed, writes.turns.folder⟩
  · rw [writes.turns.other, writes.turns.struck]
    rintro (making | staging)
    · simp [rival.unspoilt (.inl making), making, Saving.isStaged]
    · simp [rival.unspoilt (.inr staging), staging, Saving.isStaged]
  · simp [writes.look, writes.isStaged]
  · rw [writes.turns.other, writes.look, writes.isStaged]
    intro _ content publishing isFile
    simp only [Option.some.injEq, Entry.file.injEq] at isFile
    rw [writes.textOf_rival (by rw [publishing]; rfl), isFile.2]
  · rw [writes.turns.other, writes.look, writes.look, writes.isStaged]
    intro isPublished
    obtain ⟨published, found, shares⟩ := writes.published_rival rival isPublished
    refine ⟨published, found, ?_⟩
    simp only [Option.some.injEq, Entry.file.injEq]
    rintro _ _ ⟨rfl, _⟩
    exact shares

/-- The final name is in use only if it was, and then it is that of the other saving. -/
theorem taken (writes : Writes orders staging name race after saver entries changed mark)
    (orderly : Orderly orders staging name race) (bound : after.folder.find? name ≠ none)
    : (after.saving saver.rival).isPublished = true := by
  rw [writes.look] at bound
  have wasBound : race.folder.find? name ≠ none := by
    rw [writes.present]
    exact fun missing => bound (writes.free missing)
  obtain ⟨holder, isPublished⟩ := orderly.taken wasBound
  rcases saver.eq_or_eq_rival holder with rfl | rfl
  · rw [writes.phase] at isPublished
    cases isPublished
  · rw [writes.turns.other, isPublished]

/-- Writing the text keeps the order. -/
theorem orderly (writes : Writes orders staging name race after saver entries changed mark)
    (orderly : Orderly orders staging name race)
    : Orderly orders staging name after where
  isFolder := by simp [writes.turns.folder]
  noInner := by simp [writes.look, writes.isStaged]
  stands := (Saver.forall_iff saver).mpr
    ⟨writes.stands_own (orderly.stands saver), writes.stands_rival (orderly.stands saver.rival)⟩
  taken bound := ⟨saver.rival, writes.taken orderly bound⟩
  exclusive := by
    refine (Saver.forall_iff saver).mpr ⟨?_, ?_⟩ <;>
      simp [writes.turns.own, Saving.isPublished]

end Writes

/-- The staging file is given the final name, which was free. -/
theorem Turns.orderly_linked {entries : NameMap Entry} {mark : Nat} {content : ByteArray}
    (orderly : Orderly orders staging name race) (phase : race.saving saver = .publishing)
    (present : race.folder = .present entries) (differs : name ≠ staging)
    (turns
      : Turns race after saver (.discarding none)
          (.present (entries.insert name (.file mark content))))
    (isStaged : entries.find? staging = some (.file mark content))
    (free : entries.find? name = none)
    : Orderly orders staging name after := by
  have own := orderly.stands saver
  have other := orderly.stands saver.rival
  have same := turns.overwritten_eq (by simp [phase])
  have text (either : Saver) : after.textOf orders either = race.textOf orders either :=
    textOf_eq same either
  have look := look_of_present present
  have staged : after.folder.find? staging = some (.file mark content) := by
    rw [turns.folder]
    exact (NameMap.find?_insert ..).trans (by rw [if_neg differs.symm, isStaged])
  have named : after.folder.find? name = some (.file mark content) := by
    rw [turns.folder]
    exact (NameMap.find?_insert ..).trans (if_pos rfl)
  have unpublished : (race.saving saver.rival).isPublished = false := by
    refine Bool.eq_false_iff.mpr fun isPublished => ?_
    obtain ⟨_, found, _⟩ := other.published isPublished
    simp [← look, free] at found
  refine {
    isFolder := by simp [turns.folder]
    noInner := by simp [staged]
    stands := (Saver.forall_iff saver).mpr ⟨?_, ?_⟩
    taken := fun _ => ⟨saver, by simp [turns.own, Saving.isPublished]⟩
    exclusive := (Saver.forall_iff saver).mpr ⟨?_, ?_⟩
  }
  · constructor
    · exact fun _ => ⟨_, turns.folder⟩
    · simp [turns.own]
    · simp [staged]
    · simp [turns.own]
    · intro _
      refine ⟨mark, ?_, by simp +contextual [turns.own, staged]⟩
      rw [named, text, own.text mark content phase (by rw [← look, isStaged])]
  · constructor
    · exact fun _ => ⟨_, turns.folder⟩
    · rw [turns.other, same]
      exact other.unspoilt
    · simp [staged]
    · rw [turns.other, staged, text, ← isStaged, look]
      exact other.text
    · simp [turns.other, unpublished]
  · simp [turns.other, unpublished]
  · simp [turns.other, unpublished]

/-- The staging name is dropped. -/
theorem Turns.orderly_dropped {entries : NameMap Entry} {outcome : Option AutomationError}
    (orderly : Orderly orders staging name race) (phase : race.saving saver = .discarding outcome)
    (present : race.folder = .present entries) (differs : name ≠ staging)
    (turns
      : Turns race after saver (.finished outcome) (.present (entries.erase staging)))
    : Orderly orders staging name after := by
  have own := orderly.stands saver
  have other := orderly.stands saver.rival
  have same := turns.overwritten_eq (by simp [phase])
  have text (either : Saver) : after.textOf orders either = race.textOf orders either :=
    textOf_eq same either
  have missing : after.folder.find? staging = none := by
    rw [turns.folder]
    exact (NameMap.find?_erase ..).trans (if_pos rfl)
  have named : after.folder.find? name = race.folder.find? name := by
    rw [turns.folder, present]
    exact (NameMap.find?_erase ..).trans (if_neg differs)
  have published
      : ∀ either, (after.saving either).isPublished = (race.saving either).isPublished := by
    refine (Saver.forall_iff saver).mpr ⟨?_, by rw [turns.other]⟩
    rw [turns.own, phase]
    cases outcome <;> rfl
  have holds (either : Saver) (isPublished : (after.saving either).isPublished = true)
      : ∃ mark,
          after.folder.find? name = some (.file mark (after.textOf orders either))
          ∧ ∀ otherMark content,
              after.folder.find? staging = some (.file otherMark content)
              → (otherMark = mark ↔ after.saving either = .discarding none) := by
    rw [published] at isPublished
    obtain ⟨mark, found, _⟩ := (orderly.stands either).published isPublished
    exact ⟨mark, by rw [named, text, found], by simp [missing]⟩
  refine {
    isFolder := by simp [turns.folder]
    noInner := by simp [missing]
    stands := (Saver.forall_iff saver).mpr ⟨?_, ?_⟩
    taken := by simpa only [named, published] using orderly.taken
    exclusive := by simpa only [published] using orderly.exclusive
  }
  · constructor
    · exact fun _ => ⟨_, turns.folder⟩
    · simp [turns.own]
    · simp [turns.own, Saving.isStaged]
    · simp [turns.own]
    · exact holds saver
  · constructor
    · exact fun _ => ⟨_, turns.folder⟩
    · rw [turns.other, same]
      exact other.unspoilt
    · simp [turns.own, Saving.isFinished]
    · simp [missing]
    · exact holds saver.rival

end

/-- The orders of two savings under one name, which a folder may be asked for like the staging name.
-/
structure OneName (orders : Saver → SaveOrder) (staging name : String) : Prop where
  fileName : ∀ saver, (orders saver).fileName = name
  stagingName : ∀ saver, (orders saver).stagingName = staging
  legal : LegalName name
  stagingLegal : LegalName staging
  differs : name ≠ staging

-----------------------------------------------------------------------------------------
-- The calls one by one
-----------------------------------------------------------------------------------------

namespace Orderly
variable {orders : Saver → SaveOrder} {race : Race} {saver : Saver}

/-- Making the folder changes no entries, for a new one has none. -/
theorem turn_making {staging name : String} (orderly : Orderly orders staging name race)
    (phase : race.saving saver = .making)
    : Orderly orders staging name (race.turn orders saver) := by
  obtain ⟨entries, made, look⟩
      : ∃ entries,
          race.folder.make = .ok (.present entries)
          ∧ ∀ sought, entries.find? sought = race.folder.find? sought := by
    cases folder : race.folder with
    | absent => exact ⟨.empty, rfl, fun _ => rfl⟩
    | file => exact absurd folder orderly.isFolder
    | present entries => exact ⟨entries, rfl, fun _ => rfl⟩
  have turns : Turns race (race.turn orders saver) saver .staging (.present entries) :=
    turns_turn orders (by rw [phase, Saving.step, made])
  exact (turns.passes look (phase ▸ .made)).orderly orderly

/-- A saving that is over changes nothing. -/
theorem turn_finished {staging name : String} (orderly : Orderly orders staging name race)
    {outcome : Option AutomationError} (phase : race.saving saver = .finished outcome)
    : Orderly orders staging name (race.turn orders saver) := by
  obtain ⟨entries, present⟩ := (orderly.stands saver).made (by simp [phase])
  have turns := turns_turn orders (by rw [phase, present, Saving.step])
  have idle
      : Idle (race.folder.find? staging = none) (race.saving saver) (.finished outcome) := by
    rw [phase]
    exact .finished outcome
  exact (turns.passes (look_of_present present) idle).orderly orderly

section Named
variable {entries : NameMap Entry}
  (orderly : Orderly orders (orders saver).stagingName (orders saver).fileName race)
  (oneName : OneName orders (orders saver).stagingName (orders saver).fileName)
  (present : race.folder = .present entries)

include orderly present in
/-- If the staging name is in use, it is that of a file. -/
theorem staged_cases
    : entries.find? (orders saver).stagingName = none
      ∨ ∃ mark content,
          entries.find? (orders saver).stagingName = some (.file mark content) := by
  have look := look_of_present present (orders saver).stagingName
  cases staged : entries.find? (orders saver).stagingName with
  | none => exact .inl rfl
  | some entry =>
      cases entry with
      | file mark content => exact .inr ⟨mark, content, rfl⟩
      | folder inner => exact absurd (by rw [← look, staged]) (orderly.noInner inner)

include orderly oneName present

/-- The text is written to a new staging file, which no other name stands for. The other saving has
not staged its text, for its staging file would be there.
-/
theorem turn_staging_free (phase : race.saving saver = .staging)
    (missing : entries.find? (orders saver).stagingName = none)
    : Orderly orders (orders saver).stagingName (orders saver).fileName
        (race.turn orders saver) := by
  have look := look_of_present present (orders saver).stagingName
  have turns := turns_turn orders (by
    rw [phase, present, Saving.step_staging oneName.stagingLegal missing])
  have added (sought : String) := NameMap.find?_insert entries (orders saver).stagingName sought
    (.file (Folder.freshMark entries) (orders saver).content)
  have unstaged : (race.saving saver.rival).isStaged = false := by
    refine Bool.eq_false_iff.mpr fun isStaged => ?_
    have unfinished : (race.saving saver.rival.rival).isFinished = false := by
      simp [phase, Saving.isFinished]
    exact (orderly.stands saver.rival).staged isStaged unfinished (by rw [← look, missing])
  refine Writes.orderly ⟨phase, present, turns, by rw [added, if_pos rfl], ?_, ?_, ?_⟩ orderly
  · intro free
    rw [added, if_neg oneName.differs, free]
  · intro shares
    simp [shares, Saving.isStaged] at unstaged
  · intro _
    refine ⟨by rw [added, if_neg oneName.differs], fun content found => ?_⟩
    exact Nat.lt_irrefl _ (Folder.mark_lt_freshMark found)

/-- The text is written over a staging file. It is under the final name as well if the other saving
has published this file and not yet dropped it, and only then.
-/
theorem turn_staging_over (phase : race.saving saver = .staging) {mark : Nat} {old : ByteArray}
    (staged : entries.find? (orders saver).stagingName = some (.file mark old))
    : Orderly orders (orders saver).stagingName (orders saver).fileName
        (race.turn orders saver) := by
  have rival := orderly.stands saver.rival
  have look := look_of_present present
  have turns := turns_turn orders (by
    rw [phase, present, Saving.step_staging_over oneName.stagingLegal staged])
  have changed (sought : String) :=
    Folder.find?_setContent mark (orders saver).content entries sought
  have written
      : (Folder.setContent mark (orders saver).content entries).find? (orders saver).stagingName
        = some (.file mark (orders saver).content) := by
    simp [changed, staged]
  refine Writes.orderly ⟨phase, present, turns, written, ?_, ?_, ?_⟩ orderly
  · intro free
    simp [changed, free]
  · intro shares
    obtain ⟨published, found, apart⟩ := rival.published (by rw [shares]; rfl)
    obtain rfl := (apart mark old (by rw [← look, staged])).mpr shares
    simp [changed, look, found]
  · intro finished
    obtain ⟨published, found, apart⟩ := rival.published (by rw [finished]; rfl)
    have differ : mark ≠ published := fun same =>
      absurd ((apart mark old (by rw [← look, staged])).mp same) (by simp [finished])
    simp [changed, look, found, differ.symm]

/-- Publishing fails and changes nothing, unless the staging file is there and the name is free. -/
theorem turn_publishing (phase : race.saving saver = .publishing)
    : Orderly orders (orders saver).stagingName (orders saver).fileName
        (race.turn orders saver) := by
  have look := look_of_present present
  rcases orderly.staged_cases present with missing | ⟨mark, content, staged⟩
  · have turns := turns_turn orders (by
      rw [phase, present, Saving.step_publishing_missing oneName.stagingLegal missing])
    exact (turns.passes look (phase ▸ .refused _)).orderly orderly
  · cases taken : entries.contains (orders saver).fileName with
    | true =>
        have turns := turns_turn orders (by
          rw [phase, present,
            Saving.step_publishing_taken oneName.legal oneName.stagingLegal staged taken])
        exact (turns.passes look (phase ▸ .refused _)).orderly orderly
    | false =>
        have turns := turns_turn orders (by
          rw [phase, present,
            Saving.step_publishing_free oneName.legal oneName.stagingLegal staged taken])
        refine turns.orderly_linked orderly phase present oneName.differs staged ?_
        simpa [NameMap.contains] using taken

/-- Dropping the staging name changes nothing if it is not in use. -/
theorem turn_discarding {outcome : Option AutomationError}
    (phase : race.saving saver = .discarding outcome)
    : Orderly orders (orders saver).stagingName (orders saver).fileName
        (race.turn orders saver) := by
  have look := look_of_present present
  rcases orderly.staged_cases present with missing | ⟨mark, content, staged⟩
  · have turns := turns_turn orders (by
      rw [phase, present, Saving.step_discarding_missing oneName.stagingLegal missing])
    exact (turns.passes look (phase ▸ .left outcome (by rw [← look, missing]))).orderly orderly
  · have turns := turns_turn orders (by
      rw [phase, present, Saving.step_discarding oneName.stagingLegal staged])
    exact turns.orderly_dropped orderly phase present oneName.differs

end Named

/-- Every call keeps the order: it changes no entries, or is one of the three that do. -/
theorem turn {staging name : String} (orderly : Orderly orders staging name race)
    (oneName : OneName orders staging name) (saver : Saver)
    : Orderly orders staging name (race.turn orders saver) := by
  obtain rfl := oneName.fileName saver
  obtain rfl := oneName.stagingName saver
  have made := (orderly.stands saver).made
  cases phase : race.saving saver with
  | making => exact orderly.turn_making phase
  | staging =>
      obtain ⟨entries, present⟩ := made (by simp [phase])
      rcases orderly.staged_cases present with missing | ⟨mark, content, staged⟩
      · exact orderly.turn_staging_free oneName present phase missing
      · exact orderly.turn_staging_over oneName present phase staged
  | publishing =>
      obtain ⟨entries, present⟩ := made (by simp [phase])
      exact orderly.turn_publishing oneName present phase
  | discarding outcome =>
      obtain ⟨entries, present⟩ := made (by simp [phase])
      exact orderly.turn_discarding oneName present phase
  | finished outcome => exact orderly.turn_finished phase

end Orderly

-----------------------------------------------------------------------------------------
-- Folders that nothing can be staged in
-----------------------------------------------------------------------------------------

/-- Nothing can be written under a name: there is no folder but a file, the name is too long, or a
folder has it.
-/
inductive Blocked (staging : String) : Folder → Prop
  | file : Blocked staging .file
  | long {folder : Folder} (isLong : longestName < staging.utf8ByteSize) : Blocked staging folder
  | inner {folder : Folder} {entries : List (String × Entry)}
    (isFolder : folder.find? staging = some (.folder entries))
    : Blocked staging folder

/-- A saving that has not staged its text and did not succeed. -/
def Futile (saving : Saving) : Prop :=
  saving.isStaged = false ∧ saving.isPublished = false

/-- A blocked name cannot be asked for at all, or a folder stands for it. -/
theorem Blocked.access {staging : String} {folder : Folder} (blocked : Blocked staging folder)
    : (∃ fault, folder.access staging = .error fault)
      ∨ ∃ entries inner,
          folder.access staging = .ok entries
          ∧ entries.find? staging = some (.folder inner) := by
  unfold Folder.access
  split
  · exact .inl ⟨_, rfl⟩
  · cases blocked with
    | file => exact .inl ⟨_, rfl⟩
    | long isLong => cases folder <;> simp [isLong]
    | inner isFolder =>
        cases folder with
        | absent => exact .inl ⟨_, rfl⟩
        | file => exact .inl ⟨_, rfl⟩
        | present entries =>
            simp only
            split
            · exact .inl ⟨_, rfl⟩
            · exact .inr ⟨entries, _, rfl, isFolder⟩

/-- Nothing is written under a blocked name. -/
theorem Blocked.write {staging : String} {folder : Folder} (blocked : Blocked staging folder)
    (content : ByteArray)
    : ∃ fault, folder.write staging content = .error fault := by
  rw [Folder.write]
  rcases blocked.access with ⟨fault, fails⟩ | ⟨entries, inner, opened, isFolder⟩
  · exact ⟨fault, by rw [fails]; rfl⟩
  · exact ⟨.other, by simp [opened, bind, Except.bind, isFolder]⟩

/-- A blocked name cannot be dropped. -/
theorem Blocked.unlink {staging : String} {folder : Folder} (blocked : Blocked staging folder)
    : ∃ fault, folder.unlink staging = .error fault := by
  rw [Folder.unlink]
  rcases blocked.access with ⟨fault, fails⟩ | ⟨entries, inner, opened, isFolder⟩
  · exact ⟨fault, by rw [fails]; rfl⟩
  · exact ⟨.other, by simp [opened, bind, Except.bind, isFolder]⟩

/-- A name that is blocked before the folder is made is blocked behind it: a new folder holds
nothing, but it takes no longer names.
-/
theorem Blocked.make {staging : String} {folder made : Folder} (blocked : Blocked staging folder)
    (makes : folder.make = .ok made)
    : Blocked staging made := by
  cases blocked with
  | file => simp [Folder.make] at makes
  | long isLong => exact .long isLong
  | inner isFolder =>
      cases folder with
      | absent => simp [Folder.find?, Folder.entries, NameMap.find?_empty] at isFolder
      | file => simp [Folder.make] at makes
      | present entries =>
          obtain rfl := Except.ok.inj makes
          exact .inner isFolder

/-- A saving without success stays so where nothing can be staged. -/
theorem Futile.step {order : SaveOrder} {saving : Saving} {folder : Folder}
    (futile : Futile saving) (blocked : Blocked order.stagingName folder)
    : Futile (saving.step order folder).1
      ∧ Blocked order.stagingName (saving.step order folder).2 := by
  cases saving with
  | making =>
      rw [Saving.step]
      cases makes : folder.make with
      | error fault => exact ⟨⟨rfl, rfl⟩, blocked⟩
      | ok made => exact ⟨⟨rfl, rfl⟩, blocked.make makes⟩
  | staging =>
      obtain ⟨fault, fails⟩ := blocked.write order.content
      rw [Saving.step, fails]
      exact ⟨⟨rfl, rfl⟩, blocked⟩
  | publishing => simp [Futile, Saving.isStaged] at futile
  | discarding outcome =>
      obtain ⟨fault, fails⟩ := blocked.unlink
      rw [Saving.step, fails]
      cases outcome with
      | none => simp [Futile, Saving.isStaged] at futile
      | some error => exact ⟨⟨rfl, rfl⟩, blocked⟩
  | finished outcome => exact ⟨futile, blocked⟩

-----------------------------------------------------------------------------------------
-- All calls
-----------------------------------------------------------------------------------------

/-- What every call keeps holds behind any number of calls. -/
theorem run_keeps {orders : Saver → SaveOrder} {holds : Race → Prop} {race : Race}
    (initial : holds race)
    (kept : ∀ before saver, holds before → holds (before.turn orders saver))
    (turns : List Saver)
    : holds (race.run orders turns) := by
  induction turns generalizing race with
  | nil => exact initial
  | cons saver rest ih => exact ih (kept race saver initial)

/-- Nothing can be staged, and no saving has succeeded. -/
structure Stuck (staging : String) (race : Race) : Prop where
  blocked : Blocked staging race.folder
  futile : ∀ saver, Futile (race.saving saver)

/-- Where nothing can be staged, no call of a saving changes that or succeeds. -/
theorem Stuck.turn {orders : Saver → SaveOrder} {staging : String} {race : Race}
    (stuck : Stuck staging race) (stagingName : ∀ saver, (orders saver).stagingName = staging)
    (saver : Saver)
    : Stuck staging (race.turn orders saver) := by
  obtain rfl := stagingName saver
  obtain ⟨futile, blocked⟩ := (stuck.futile saver).step stuck.blocked
  have turns : Turns race (race.turn orders saver) saver _ _ := turns_turn orders rfl
  refine ⟨?_, (Saver.forall_iff saver).mpr ⟨?_, ?_⟩⟩
  · rw [turns.folder]
    exact blocked
  · rw [turns.own]
    exact futile
  · rw [turns.other]
    exact stuck.futile saver.rival

/-- A saving that succeeded finds under its name the text that it gave to it. -/
theorem Orderly.read {orders : Saver → SaveOrder} {staging name : String} {race : Race}
    (orderly : Orderly orders staging name race) (legal : LegalName name) {saver : Saver}
    (succeeded : race.saving saver = .finished none)
    : race.folder.read name = .ok (race.textOf orders saver) := by
  have own := orderly.stands saver
  obtain ⟨entries, present⟩ := own.made (by simp [succeeded])
  obtain ⟨mark, found, _⟩ := own.published (by rw [succeeded]; rfl)
  rw [present] at found ⊢
  exact Folder.read_file legal found

/-- Savings of documents with one name keep the order if something can be staged in the folder. -/
theorem orderly_run (path : String) {documents : Saver → Document} {name : String}
    (named : ∀ saver, (documents saver).fileName = name)
    (short : name.utf8ByteSize + 5 ≤ longestName) {folder : Folder} (isFolder : folder ≠ .file)
    (noInner : ∀ inner, folder.find? ("." ++ name ++ ".tmp") ≠ some (.folder inner))
    (free : folder.find? name = none) (turns : List Saver)
    : LegalName name
      ∧ Orderly (fun saver => Store.orderOf path (documents saver)) ("." ++ name ++ ".tmp") name
          ((start folder).run (fun saver => Store.orderOf path (documents saver)) turns) := by
  let order : SaveOrder := Store.orderOf path (documents .left)
  have fileName : order.fileName = name := named .left
  have stagingName : order.stagingName = "." ++ name ++ ".tmp" := by
    rw [SaveOrder.stagingName, fileName]
  have isName : IsDocumentName name := named .left ▸ isDocumentName_fileNameOf _
  have oneName
      : OneName (fun saver => Store.orderOf path (documents saver)) ("." ++ name ++ ".tmp")
          name := {
    fileName := named
    stagingName := fun saver => congrArg ("." ++ · ++ ".tmp") (named saver)
    legal := isName.legal (by omega)
    stagingLegal := by
      rw [← stagingName]
      exact IsDocumentName.legal_stagingName (by rwa [fileName]) (by rwa [fileName])
    differs := stagingName ▸ isName.ne_stagingName order
  }
  exact ⟨oneName.legal, run_keeps (orderly_start _ isFolder noInner free)
    (fun _ saver orderly => orderly.turn oneName saver) turns⟩

/-- Two documents with one name are saved into a folder in which the name is free, with the calls of
the savings in any order. At any time one of them at most has succeeded; and what is stored then is
the text of this one, unless the other text was written while its own was staged: then it is the
other text.
-/
theorem stores_one (path : String) {documents : Saver → Document} {name : String}
    (named : ∀ saver, (documents saver).fileName = name) {folder : Folder}
    (free : folder.find? name = none) (turns : List Saver)
    : let orders saver := Store.orderOf path (documents saver)
      let race := (start folder).run orders turns
      ¬(race.saving .left = .finished none ∧ race.saving .right = .finished none)
      ∧ ∀ saver,
          race.saving saver = .finished none
          → race.folder.read name
            = .ok (orders (if race.overwritten saver then saver.rival else saver)).content := by
  intro orders race
  by_cases blocked : Blocked ("." ++ name ++ ".tmp") folder
  · have stagingName (saver : Saver) : (orders saver).stagingName = "." ++ name ++ ".tmp" :=
      congrArg ("." ++ · ++ ".tmp") (named saver)
    have stuck : Stuck ("." ++ name ++ ".tmp") race := run_keeps
      ⟨blocked, fun _ => ⟨rfl, rfl⟩⟩ (fun _ saver stuck => stuck.turn stagingName saver) turns
    clear_value race
    have fails (saver : Saver) : race.saving saver ≠ .finished none := fun succeeded => by
      simpa [succeeded, Saving.isPublished] using (stuck.futile saver).2
    exact ⟨fun both => fails .left both.1, fun saver succeeded => absurd succeeded (fails saver)⟩
  · have short : name.utf8ByteSize + 5 ≤ longestName := by
      have size := (orders .left).utf8ByteSize_stagingName
      have fileName : (orders .left).fileName = name := named .left
      rw [SaveOrder.stagingName, fileName] at size
      rw [← size]
      exact Nat.le_of_not_lt fun isLong => blocked (.long isLong)
    obtain ⟨legal, orderly⟩ := orderly_run path named short
      (fun isFile => blocked (by rw [isFile]; exact .file))
      (fun inner isFolder => blocked (.inner isFolder)) free turns
    refine ⟨?_, fun saver succeeded => orderly.read legal succeeded⟩
    rintro ⟨left, right⟩
    have exclusive := orderly.exclusive .left (by rw [left]; rfl)
    rw [Saver.rival, right] at exclusive
    exact Bool.false_ne_true exclusive.symm

-----------------------------------------------------------------------------------------
-- Two documents of one name
-----------------------------------------------------------------------------------------

/-- One saving at most has succeeded, and it has stored its own text. -/
def StoresOwn (orders : Saver → SaveOrder) (name : String) (race : Race) : Prop :=
  ¬(race.saving .left = .finished none ∧ race.saving .right = .finished none)
  ∧ ∀ saver,
      race.saving saver = .finished none → race.folder.read name = .ok (orders saver).content

/-- A document without steps. -/
def titled (title : String) : Document where
  head := ⟨title, ⟨⟨2025, 1, 6, 8, 0, 0, 0⟩, by decide⟩⟩
  steps := .empty
  environment := .empty

/-- Two documents whose titles differ in case only. -/
def namesakes : Saver → Document
  | .left => titled "T"
  | .right => titled "t"

theorem fileName_namesakes (saver : Saver) : (namesakes saver).fileName = "t.json" := by
  cases saver <;> decide +kernel

/-- Documents with different texts are stored as different contents. -/
theorem content_orderOf_ne {path : String} {document other : Document}
    (differ : document.print ≠ other.print)
    : (Store.orderOf path document).content ≠ (Store.orderOf path other).content := by
  intro same
  simp only [Store.orderOf] at same
  exact differ (String.toByteArray_inj.mp same)

/-- The second text is written behind the first, and then the first saving takes the name: it
succeeds with the second text.
-/
theorem not_storesOwn_namesakes
    : let orders saver := Store.orderOf "store" (namesakes saver)
      let race := (start .absent).run orders
        [.left, .left, .right, .right, .left, .left, .right, .right]
      race.saving .left = .finished none
      ∧ (race.saving .right).isFinished = true
      ∧ race.folder.read "t.json" = .ok (orders .right).content
      ∧ ¬StoresOwn orders "t.json" race := by
  intro orders race
  have free (sought : String) : Folder.absent.find? sought = none := rfl
  obtain ⟨legal, orderly⟩
      : LegalName "t.json" ∧ Orderly orders ("." ++ "t.json" ++ ".tmp") "t.json" race :=
    orderly_run "store" fileName_namesakes (by decide) Folder.noConfusion
      (fun _ => by simp [free]) (free "t.json") _
  have succeeded : race.saving .left = .finished none := by decide +kernel
  have finished : (race.saving .right).isFinished = true := by decide +kernel
  have struck : race.overwritten .left = true := by decide +kernel
  have differ : (orders .right).content ≠ (orders .left).content :=
    content_orderOf_ne (by decide +kernel)
  clear_value race orders
  have stored := orderly.read legal succeeded
  rw [textOf, if_pos struck, Saver.rival] at stored
  refine ⟨succeeded, finished, stored, fun own => differ ?_⟩
  exact Except.ok.inj (stored.symm.trans (own.2 .left succeeded))

/-- The first text is written behind the second and takes the name: it is stored. -/
theorem stores_one_namesakes
    : let orders saver := Store.orderOf "store" (namesakes saver)
      let race := (start .absent).run orders
        [.right, .right, .left, .left, .left, .left, .right, .right]
      (∀ saver, (namesakes saver).fileName = "t.json")
      ∧ Folder.absent.find? "t.json" = none
      ∧ race.saving .left = .finished none
      ∧ race.overwritten .right = true
      ∧ race.folder.read "t.json" = .ok (orders .left).content := by
  intro orders race
  have free : Folder.absent.find? "t.json" = none := rfl
  have stores := stores_one "store" fileName_namesakes free
    [.right, .right, .left, .left, .left, .left, .right, .right]
  extract_lets at stores
  have succeeded : race.saving .left = .finished none := by decide +kernel
  have kept : race.overwritten .left = false := by decide +kernel
  have struck : race.overwritten .right = true := by decide +kernel
  clear_value race orders
  have stored := stores.2 .left succeeded
  rw [if_neg (Bool.eq_false_iff.mp kept)] at stored
  exact ⟨fileName_namesakes, free, succeeded, struck, stored⟩

end Race
end DesktopAutomation
