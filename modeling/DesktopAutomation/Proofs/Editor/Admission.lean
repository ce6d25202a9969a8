import DesktopAutomation.Proofs.Editor.InPlace
import DesktopAutomation.Proofs.Editor.Removal
import DesktopAutomation.Proofs.Editor.Storing

/-! When an edit is accepted, told without the checks that decide it: by the ids and names of the
steps, by the variables and by the screen. What is accepted is carried out as a whole, what is
refused leaves the session as it is.
-/

namespace DesktopAutomation.EditorSession
open Environment

-----------------------------------------------------------------------------------------
-- What is admitted
-----------------------------------------------------------------------------------------

/-- A place for steps: the tree itself, or a container in it. -/
def IsPlace (tree : StepTree) (container : Option StepId) : Prop :=
  ∀ id,
    container = some id → ∃ step ∈ tree.toList, step.id = id ∧ step.isContainer = true

/-- No variable of another step has the name that a step declares. -/
def MayDeclare (session : EditorSession) (step : Step) : Prop :=
  ∀ name binding,
    step.declaredName? = some name
    → session.environment.bindings.find? (keyOf name) = some binding
    → binding.owner = step.id

/-- If a step moves the pointer, it does so on the screen. -/
def StaysOnScreen (session : EditorSession) (step : Step) : Prop :=
  ∀ target, step.target? = some target → session.device.screen.contains target = true

/-- A step, with the steps within it, may come to a place. -/
structure Admits (session : EditorSession) (step : Step) (parent : Option StepId) : Prop where
  distinctIds : ((walk [step]).map Step.id).Nodup
  unusedIds : ∀ new ∈ walk [step], new.id ∉ session.steps.toList.map Step.id
  place : IsPlace session.steps parent
  distinctNames
    : (walk [step]).Pairwise fun new other =>
        ∀ name otherName,
          new.declaredName? = some name
          → other.declaredName? = some otherName
          → keyOf name ≠ keyOf otherName
  mayDeclare : ∀ new ∈ walk [step], session.MayDeclare new
  staysOnScreen : ∀ new ∈ walk [step], session.StaysOnScreen new

/-- A version may take the place of the step with an id. -/
structure AdmitsVersion (session : EditorSession) (id : StepId) (step : Step) : Prop where
  present : id ∈ session.steps.toList.map Step.id
  mayDeclare : session.MayDeclare (step.withId id)
  staysOnScreen : session.StaysOnScreen step

/-- Nothing speaks against an edit. -/
def Edit.Admitted (session : EditorSession) : Edit → Prop
  | .add step parent => session.Admits step parent
  | .edit id step => session.AdmitsVersion id step
  | .remove id => id ∈ session.steps.toList.map Step.id
  | .clear container => IsPlace session.steps container

/-- A session with a new step: it stands behind the others of its place, the variables that it and
the steps within it declare are bound as declared, and nothing else differs.
-/
structure Adds (before : EditorSession) (step : Step) (parent : Option StepId)
    (after : EditorSession) : Prop where
  steps : after.steps.steps = grownAt parent step before.steps.steps
  bound
    : ∀ new ∈ walk [step], ∀ name declared,
        new.declaration? = some (name, declared)
        → after.environment.bindings.find? (keyOf name) = some declared
  untouched
    : ∀ key,
        key ∉ declaredKeys [step]
        → after.environment.bindings.find? key = before.environment.bindings.find? key
  createdAt : after.createdAt = before.createdAt
  device : after.device = before.device

-----------------------------------------------------------------------------------------
-- What the checks let pass
-----------------------------------------------------------------------------------------

/-- The keys that some steps declare are distinct exactly if the names of any two of the steps differ
in more than case.
-/
theorem distinctNames_iff (steps : List Step)
    : (steps.filterMap Step.declaredKey?).Nodup
      ↔ steps.Pairwise fun new other =>
          ∀ name otherName,
            new.declaredName? = some name
            → other.declaredName? = some otherName
            → keyOf name ≠ keyOf otherName := by
  rw [List.Nodup, List.pairwise_filterMap]
  refine iff_of_eq (congrArg (List.Pairwise · steps) ?_)
  funext new other
  simp only [Step.declaredKey?, Option.map_eq_some_iff, eq_iff_iff]
  constructor
  · intro differ name otherName declared otherDeclared
    exact differ _ ⟨name, declared, rfl⟩ _ ⟨otherName, otherDeclared, rfl⟩
  · rintro differ _ ⟨name, declared, rfl⟩ _ ⟨otherName, otherDeclared, rfl⟩
    exact differ name otherName declared otherDeclared

/-- A step has no conflict with the screen exactly if its target, if it has one, is on it. -/
theorem pointerConflict?_eq_none_iff (screen : Screen) (step : Step)
    : pointerConflict? screen step = none
      ↔ ∀ target, step.target? = some target → screen.contains target = true := by
  cases target : step.target? <;> simp [pointerConflict?, target]

/-- A step may stand in a session exactly if it may declare its name and its move stays on the
screen.
-/
theorem stepConflict?_eq_none_iff {session : EditorSession}
    (unshadowed : session.environment.shadows = []) (step : Step)
    : session.stepConflict? step = none
      ↔ session.MayDeclare step ∧ session.StaysOnScreen step := by
  rw [stepConflict?, Option.or_eq_none_iff, ownershipConflict?_eq_none_iff,
    pointerConflict?_eq_none_iff]
  simp only [get?_of_unshadowed unshadowed, MayDeclare, StaysOnScreen]
  grind

/-- A place is not refused exactly if it is the tree itself or a step that can hold steps. -/
theorem isPlace_iff {tree : StepTree} (distinct : (tree.toList.map Step.id).Nodup)
    (container : Option StepId)
    : containerRefusal? tree container = none ↔ IsPlace tree container := by
  rw [containerRefusal?_eq_none_iff]
  cases container with
  | none => simp [StepTree.siblings?, IsPlace]
  | some id =>
      simp only [StepTree.siblings?, IsPlace, Option.isSome_iff_exists, Option.bind_eq_some_iff,
        Option.some.injEq, forall_eq', Step.isContainer]
      constructor
      · rintro ⟨body, step, found, container⟩
        exact ⟨step, List.mem_of_find?_eq_some found, by simpa using List.find?_some found,
          body, container⟩
      · rintro ⟨step, member, rfl, body, container⟩
        exact ⟨body, step, StepTree.find?_of_mem distinct member, container⟩

/-- A step is added exactly if none of the three checks finds a conflict. -/
theorem add_accepted_iff (session : EditorSession) (step : Step) (parent : Option StepId)
    : (∃ after, session.add step parent = .ok after)
      ↔ newcomerConflict? session.steps [] [] (walk [step]) = none
        ∧ containerRefusal? session.steps parent = none
        ∧ ∀ new ∈ walk [step], session.stepConflict? new = none := by
  rw [add, ← List.findSome?_eq_none_iff]
  cases newcomerConflict? session.steps [] [] (walk [step]) <;>
    cases containerRefusal? session.steps parent <;>
      cases (walk [step]).findSome? session.stepConflict? <;> simp

/-- In a sound session, a step is added exactly if the session admits it. -/
theorem Sound.add_accepted_iff_admits {session : EditorSession} (sound : session.Sound)
    (step : Step) (parent : Option StepId)
    : (∃ after, session.add step parent = .ok after) ↔ session.Admits step parent := by
  rw [add_accepted_iff, newcomerConflict?_eq_none_iff, isPlace_iff sound.distinctIds_toList]
  simp only [stepConflict?_eq_none_iff sound.unshadowed, distinctNames_iff, List.lookup_nil,
    List.not_mem_nil, not_false_eq_true, and_true, implies_true, true_and,
    Bool.eq_false_iff, ne_eq, StepTree.contains_iff]
  constructor
  · rintro ⟨⟨unused, ids, names⟩, place, admitted⟩
    exact ⟨ids, unused, place, names, fun new member => (admitted new member).1,
      fun new member => (admitted new member).2⟩
  · intro admits
    exact ⟨⟨admits.unusedIds, admits.distinctIds, admits.distinctNames⟩, admits.place,
      fun new member => ⟨admits.mayDeclare new member, admits.staysOnScreen new member⟩⟩

/-- What a version declares, and where it moves the pointer, does not depend on the old step. -/
theorem stepConflict?_versionOf {session : EditorSession}
    (unshadowed : session.environment.shadows = []) (old step : Step)
    : session.stepConflict? (versionOf old step) = none
      ↔ session.MayDeclare (step.withId old.id) ∧ session.StaysOnScreen step := by
  rw [stepConflict?_eq_none_iff unshadowed]
  cases step with
  | action id act => cases act <;> exact Iff.rfl
  | statement id stmt body => exact Iff.rfl

/-- In a sound session, a step is edited exactly if the session admits its version. -/
theorem Sound.edit_accepted_iff {session : EditorSession} (sound : session.Sound) (id : StepId)
    (step : Step)
    : (∃ after, session.edit id step = .ok after) ↔ session.AdmitsVersion id step := by
  rw [edit_eq]
  cases found : session.steps.find? id with
  | none =>
      have absent : id ∉ session.steps.toList.map Step.id := by
        rw [← StepTree.contains_iff, StepTree.contains, found]
        exact Bool.false_ne_true
      simp only [reduceCtorEq, exists_false, false_iff]
      exact fun admits => absent admits.present
  | some old =>
      obtain rfl : old.id = id := by simpa using List.find?_some found
      have present : old.id ∈ session.steps.toList.map Step.id :=
        List.mem_map_of_mem (List.mem_of_find?_eq_some found)
      have admitted := stepConflict?_versionOf sound.unshadowed old step
      constructor
      · rintro ⟨after, accepted⟩
        cases passed : session.stepConflict? (versionOf old step) with
        | some conflict => simp [passed] at accepted
        | none => exact ⟨present, (admitted.mp passed).1, (admitted.mp passed).2⟩
      · intro admits
        simp only [admitted.mpr ⟨admits.mayDeclare, admits.staysOnScreen⟩]
        exact ⟨_, rfl⟩

/-- A step is removed exactly if the tree has its id. -/
theorem remove_accepted_iff (session : EditorSession) (id : StepId)
    : (∃ taken after, session.remove id = .ok (taken, after))
      ↔ id ∈ session.steps.toList.map Step.id := by
  rw [← StepTree.contains_iff, ← StepTree.remove?_isSome, remove]
  cases session.steps.remove? id <;> simp

/-- A place is cleared exactly if there is one. -/
theorem clear_accepted_iff {session : EditorSession}
    (distinct : (session.steps.toList.map Step.id).Nodup) (container : Option StepId)
    : (∃ taken after, session.clear container = .ok (taken, after))
      ↔ IsPlace session.steps container := by
  rw [← isPlace_iff distinct, clear]
  cases containerRefusal? session.steps container <;> simp

/-- In a sound session, an edit is accepted exactly if it is admitted, kind by kind. -/
theorem Sound.attempt_accepted_iff {session : EditorSession} (sound : session.Sound) (edit : Edit)
    : (∃ taken after, session.attempt edit = .ok (taken, after)) ↔ edit.Admitted session := by
  cases edit with
  | add step parent =>
      refine Iff.trans ?_ (sound.add_accepted_iff_admits step parent)
      cases accepted : session.add step parent <;> simp [attempt, accepted, Except.map]
  | edit id step =>
      refine Iff.trans ?_ (sound.edit_accepted_iff id step)
      cases accepted : session.edit id step <;> simp [attempt, accepted, Except.map]
  | remove id =>
      refine Iff.trans ?_ (remove_accepted_iff session id)
      cases accepted : session.remove id <;> simp [attempt, accepted, Except.map, Prod.ext_iff]
  | clear container => exact clear_accepted_iff sound.distinctIds_toList container

-----------------------------------------------------------------------------------------
-- What is carried out
-----------------------------------------------------------------------------------------

/-- A step that is accepted stands in its place behind that, and its names are bound. -/
theorem Sound.adds {session after : EditorSession} {step : Step} {parent : Option StepId}
    (sound : session.Sound) (accepted : session.add step parent = .ok after)
    : Adds session step parent after := by
  have change := add_replaces sound accepted
  obtain ⟨_, _, steps, inserted, rfl⟩ := add_eq_ok accepted
  refine ⟨StepTree.insert?_eq_grownAt sound.distinctIds_toList inserted, ?_, ?_, rfl, rfl⟩
  · intro new member name declared declares
    rw [walk_eq_listingOf] at member
    exact change.registered new.bare (List.mem_map_of_mem member) name declared
      (new.bare_declaration? ▸ declares)
  · intro key undeclared
    refine change.untouched key ?_
    rwa [List.nil_append, bareListing_declaredKeys, ← walk_eq_listingOf]

/-- Whatever was done with a session, an edit of it is accepted exactly if it is admitted. Carried
out in place it ends with what it takes out and the session behind it, or it is refused and leaves
the session as it is. A step that is added stands behind the others of its place, with its
variables.
-/
theorem performAll_admission {session : EditorSession} (starts : session.Starts)
    (operations : List Operation) (edit : Edit)
    : let current := session.performAll operations
      ((∃ taken after, current.attempt edit = .ok (taken, after)) ↔ edit.Admitted current)
      ∧ (∀ taken after,
          edit.inPlace current = .ok taken after
          ↔ current.attempt edit = .ok (taken, after))
      ∧ (∀ refusal left,
          edit.inPlace current = .error refusal left
          ↔ current.attempt edit = .error refusal ∧ left = current)
      ∧ ∀ step parent after,
          current.add step parent = .ok after → Adds current step parent after := by
  intro current
  have sound : current.Sound := performAll_sound starts.sound operations
  refine ⟨sound.attempt_accepted_iff edit, ?_, ?_, fun _ _ _ accepted => sound.adds accepted⟩
  · intro taken after
    rw [edit.inPlace_eq]
    cases current.attempt edit <;> simp [atOnce, Prod.ext_iff]
  · intro refusal left
    rw [edit.inPlace_eq]
    cases current.attempt edit <;> simp [atOnce, eq_comm]

/-- A cycle is added to the body of another one. A step that declares the variable of the latter,
but for its case, is refused.
-/
theorem performAll_admission_nested
    : let current := (fresh (.blank .standard)).performAll
        [.add (.statement ⟨1⟩ (.cycle "rows" "Row") []) none]
      let inner : Step := .statement ⟨2⟩ (.cycle "row" "cell") [.action ⟨3⟩ (.move ⟨0, 0⟩)]
      let taken : Edit := .add (.action ⟨4⟩ (.setVariable "ROW" "x")) none
      (fresh (.blank .standard)).Starts
      ∧ Edit.Admitted current (.add inner (some ⟨1⟩))
      ∧ (∃ after,
          (Edit.add inner (some ⟨1⟩)).inPlace current = .ok [] after
          ∧ Adds current inner (some ⟨1⟩) after)
      ∧ ¬taken.Admitted current
      ∧ ∃ refusal, taken.inPlace current = .error refusal current := by
  intro current inner taken
  have starts : (fresh (.blank .standard)).Starts := .fresh _
  obtain ⟨innerAdmitted, innerInPlace, _, adds⟩ :=
    performAll_admission starts [.add (.statement ⟨1⟩ (.cycle "rows" "Row") []) none]
      (.add inner (some ⟨1⟩))
  obtain ⟨takenAdmitted, _, takenInPlace, _⟩ :=
    performAll_admission starts [.add (.statement ⟨1⟩ (.cycle "rows" "Row") []) none] taken
  have passes : (current.add inner (some ⟨1⟩)).toOption.isSome = true := by decide +kernel
  have fails : (current.attempt taken).toOption.isSome = false := by decide +kernel
  cases accepted : current.add inner (some ⟨1⟩) with
  | error refusal => simp [accepted, Except.toOption] at passes
  | ok after =>
      have ends : current.attempt (.add inner (some ⟨1⟩)) = .ok ([], after) := by
        rw [attempt, accepted]
        rfl
      cases refused : current.attempt taken with
      | ok parts => simp [refused, Except.toOption] at fails
      | error refusal =>
          refine ⟨starts, innerAdmitted.mp ⟨[], after, ends⟩,
            ⟨after, (innerInPlace [] after).mpr ends, adds _ _ after accepted⟩, ?_,
            refusal, (takenInPlace refusal current).mpr ⟨refused, rfl⟩⟩
          intro admitted
          obtain ⟨_, _, passed⟩ := takenAdmitted.mpr admitted
          simpa using refused.symm.trans passed

end DesktopAutomation.EditorSession
