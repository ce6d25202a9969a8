import DesktopAutomation.Proofs.Environment.Bindings
import DesktopAutomation.Proofs.Tree.Accounting

/-! Operations on an editor session as data, and sequences of them.
An operation that is refused leaves the session as it is; what the others do is told once, so that
whatever holds of a session is checked against seven kinds of change.
-/

namespace DesktopAutomation.EditorSession
open Environment

-----------------------------------------------------------------------------------------
-- Operations
-----------------------------------------------------------------------------------------

/-- What can be done with a session: edits, reading the pointer into a step, trying the automation
out, and using or switching the screen directly.
-/
inductive Operation
  | add (step : Step) (parent : Option StepId)
  | edit (id : StepId) (step : Step)
  | remove (id : StepId)
  | reorder (source destination : Nat) (container : Option StepId)
  | clear (container : Option StepId)
  | capture
  | addCaptured (parent : Option StepId)
  | run (controls : Run.Controls) (offlineAfter : Option Nat)
  | send (dispatch : Dispatch)
  | switchOffline (offline : Bool)

/-- The session behind an attempt: a refusal leaves it as it is. -/
def settled (session : EditorSession) : Except AutomationError EditorSession → EditorSession
  | .ok after => after
  | .error _ => session

/-- Carries out an operation, whether it succeeds or is refused. -/
def perform (session : EditorSession) : Operation → EditorSession
  | .add step parent => session.settled (session.add step parent)
  | .edit id step => session.settled (session.edit id step)
  | .remove id => session.settled ((session.remove id).map (·.2))
  | .reorder source destination container =>
      (session.reorder? source destination container).getD session
  | .clear container => session.settled ((session.clear container).map (·.2))
  | .capture => session
  | .addCaptured parent =>
      session.settled (session.captureMove.bind fun step => session.add step parent)
  | .run controls offlineAfter => (session.run controls offlineAfter).2
  | .send dispatch => session.settled (session.send dispatch)
  | .switchOffline offline => session.switchOffline offline

/-- Carries out operations one after the other. -/
def performAll (session : EditorSession) (operations : List Operation) : EditorSession :=
  operations.foldl perform session

/-- What one operation can make of a session. -/
inductive Change (session : EditorSession) : EditorSession → Prop
  | refused : Change session session
  | screen (device : VirtualScreen) : Change session { session with device := device }
  | added {step parent after} (accepted : session.add step parent = .ok after)
    : Change session after
  | edited {id step after} (accepted : session.edit id step = .ok after) : Change session after
  | removed {id taken after} (accepted : session.remove id = .ok (taken, after))
    : Change session after
  | moved {source destination container after}
    (accepted : session.reorder? source destination container = some after)
    : Change session after
  | cleared {container taken after} (accepted : session.clear container = .ok (taken, after))
    : Change session after

theorem settled_change {session : EditorSession}
    {attempt : Except AutomationError EditorSession}
    (accepted : ∀ after, attempt = .ok after → Change session after)
    : Change session (session.settled attempt) := by
  cases attempt with
  | error _ => exact .refused
  | ok after => exact accepted after rfl

/-- Every operation changes the session in one of the seven ways or not at all. -/
theorem perform_change (session : EditorSession) (operation : Operation)
    : Change session (session.perform operation) := by
  cases operation with
  | add step parent => exact settled_change fun _ accepted => .added accepted
  | edit id step => exact settled_change fun _ accepted => .edited accepted
  | remove id =>
      refine settled_change fun after accepted => ?_
      cases removal : session.remove id with
      | error _ => simp [removal, Except.map] at accepted
      | ok parts =>
          obtain rfl := Except.ok.inj (removal ▸ accepted)
          exact .removed removal
  | reorder source destination container =>
      cases moved : session.reorder? source destination container with
      | none => simpa [perform, moved] using .refused
      | some after => simpa [perform, moved] using .moved moved
  | clear container =>
      refine settled_change fun after accepted => ?_
      cases clearing : session.clear container with
      | error _ => simp [clearing, Except.map] at accepted
      | ok parts =>
          obtain rfl := Except.ok.inj (clearing ▸ accepted)
          exact .cleared clearing
  | capture => exact .refused
  | addCaptured parent =>
      refine settled_change fun after accepted => ?_
      cases captured : session.captureMove with
      | error _ => simp [captured, Except.bind] at accepted
      | ok step => exact .added (by simpa [captured, Except.bind] using accepted)
  | run controls offlineAfter => exact .screen _
  | send dispatch =>
      refine settled_change fun after accepted => ?_
      rw [send] at accepted
      split at accepted
      · obtain rfl := Except.ok.inj accepted
        exact .screen _
      · simp at accepted
  | switchOffline offline => exact .screen _

/-- What every change keeps holds behind every sequence of operations. -/
theorem performAll_keeps {holds : EditorSession → Prop} {session : EditorSession}
    (initial : holds session)
    (kept : ∀ before after, holds before → Change before after → holds after)
    (operations : List Operation)
    : holds (session.performAll operations) := by
  induction operations generalizing session with
  | nil => exact initial
  | cons operation rest ih => exact ih (kept _ _ initial (perform_change session operation))

-----------------------------------------------------------------------------------------
-- What is checked before an edit
-----------------------------------------------------------------------------------------

/-- New steps come without a conflict exactly if their ids are new and differ, and so do the keys
that they declare.
-/
theorem newcomerConflict?_eq_none_iff (tree : StepTree) (seen : List StepId)
    (owners : List (String × StepId)) (steps : List Step)
    : newcomerConflict? tree seen owners steps = none
      ↔ (∀ step ∈ steps, tree.contains step.id = false ∧ step.id ∉ seen)
        ∧ (steps.map Step.id).Nodup
        ∧ (∀ key ∈ steps.filterMap Step.declaredKey?, owners.lookup key = none)
        ∧ (steps.filterMap Step.declaredKey?).Nodup := by
  induction steps generalizing seen owners with
  | nil => simp [newcomerConflict?]
  | cons step rest ih =>
      rw [newcomerConflict?]
      split
      · next taken =>
          simp only [reduceCtorEq, false_iff, not_and]
          intro fresh
          exact absurd (fresh step List.mem_cons_self) (by grind)
      · next free =>
          cases declared : step.declaredName? with
          | none =>
              have undeclared : step.declaredKey? = none := by
                rw [Step.declaredKey?, declared, Option.map_none]
              simp only [ih, List.filterMap_cons_none undeclared, List.map_cons,
                List.nodup_cons, List.mem_cons, List.mem_map]
              grind
          | some name =>
              have key : step.declaredKey? = some (keyOf name) := by
                rw [Step.declaredKey?, declared, Option.map_some]
              rw [List.filterMap_cons_some key]
              cases owned : owners.lookup (keyOf name) with
              | some owner =>
                  simp only [owned, reduceCtorEq, false_iff, not_and]
                  intro _ _ unowned
                  exact absurd (unowned _ List.mem_cons_self) (by simp [owned])
              | none =>
                  simp only [ih, List.map_cons, List.nodup_cons, List.mem_cons, List.mem_map,
                    NameMap.lookup_cons_eq, owned]
                  grind

/-- A step declares no name that a variable of another step has. -/
theorem ownershipConflict?_eq_none_iff (environment : Environment) (step : Step)
    : ownershipConflict? environment step = none
      ↔ ∀ name, step.declaredName? = some name →
          ∀ existing, environment.get? name = some existing → existing.owner = step.id := by
  cases declared : step.declaredName? with
  | none => simp [ownershipConflict?, declared]
  | some name =>
      cases bound : environment.get? name with
      | none => simp [ownershipConflict?, declared, bound]
      | some existing => simp [ownershipConflict?, declared, bound]

-----------------------------------------------------------------------------------------
-- What an accepted edit does
-----------------------------------------------------------------------------------------

/-- A container that can be changed has siblings to list. -/
theorem containerRefusal?_eq_none_iff (tree : StepTree) (container : Option StepId)
    : containerRefusal? tree container = none ↔ (tree.siblings? container).isSome := by
  cases container with
  | none => simp [containerRefusal?, StepTree.siblings?]
  | some id =>
      cases found : tree.find? id with
      | none => simp [containerRefusal?, StepTree.siblings?, found]
      | some step =>
          cases container : step.body? <;>
            simp [containerRefusal?, StepTree.siblings?, found, Step.isContainer, container]

/-- A step is added behind the siblings of its place, and all new steps are registered. -/
theorem add_eq_ok {session after : EditorSession} {step : Step} {parent : Option StepId}
    (accepted : session.add step parent = .ok after)
    : newcomerConflict? session.steps [] [] (listingOf [step]) = none
      ∧ (∀ new ∈ listingOf [step], session.stepConflict? new = none)
      ∧ ∃ steps,
          session.steps.insert? step parent = some steps
          ∧ after = { session with
              steps := steps
              environment := register session.environment (listingOf [step]) } := by
  simp only [add, walk_eq_listingOf] at accepted
  split at accepted
  · simp at accepted
  · next newcomers =>
      split at accepted
      · simp at accepted
      · next container =>
          split at accepted
          · simp at accepted
          · next admitted =>
              have room := (containerRefusal?_eq_none_iff ..).mp container
              rw [← StepTree.editSiblings?_isSome _ _ (· ++ [step])] at room
              obtain ⟨steps, inserted⟩ := Option.isSome_iff_exists.mp room
              have inserted : session.steps.insert? step parent = some steps := inserted
              rw [inserted] at accepted
              refine ⟨newcomers, ?_, steps, inserted, (Except.ok.inj accepted).symm⟩
              simpa only [List.findSome?_eq_none_iff] using admitted

/-- What a step is replaced by: it keeps the id, and the body if both run it in the same way. -/
def versionOf (old step : Step) : Step :=
  (step.withId old.id).withBody (if old.sameContainer step then old.body?.getD [] else [])

/-- The steps that declare something no longer when a version takes the place of a step: the old
one if the version declares another key, and all below it if they are dropped.
-/
def leaving (old step : Step) : List Step :=
  (if (versionOf old step).declaredKey? = old.declaredKey? then [] else [old])
    ++ if old.sameContainer step then [] else listingOf (old.body?.getD [])

@[simp] theorem versionOf_id (old step : Step) : (versionOf old step).id = old.id := by
  cases step <;> rfl

theorem release_append (environment : Environment) (steps more : List Step)
    : release environment (steps ++ more) = release (release environment steps) more := by
  rw [release, List.foldl_append, ← release, ← release]

/-- Dropping the name of an old step, unless its version keeps it, releases the old step. -/
theorem release_renamed (environment : Environment) (old version : Step)
    : ((old.declaredName?.filter fun name => version.declaredKey? != some (keyOf name)).elim
          environment fun name => deleteOwned old.id name environment)
      = release environment (if version.declaredKey? = old.declaredKey? then [] else [old]) := by
  cases declared : old.declaredName? with
  | none => split <;> simp [release, declared]
  | some name =>
      have key : old.declaredKey? = some (keyOf name) := by
        rw [Step.declaredKey?, declared, Option.map_some]
      by_cases same : version.declaredKey? = some (keyOf name) <;>
        simp [release, declared, key, same, Option.filter_some]

/-- An edit checks the version that takes the place of the step with the id; what leaves is
released, then the version is registered.
-/
theorem edit_eq (session : EditorSession) (id : StepId) (step : Step)
    : session.edit id step
      = match session.steps.find? id with
        | none => .error (.notFound (.step id))
        | some old =>
            match session.stepConflict? (versionOf old step) with
            | some conflict => .error (.conflict conflict)
            | none =>
                .ok { session with
                  steps := (session.steps.replace? id (versionOf old step)).getD session.steps
                  environment :=
                    register (release session.environment (leaving old step))
                      [versionOf old step] } := by
  rw [edit]
  cases found : session.steps.find? id with
  | none => rfl
  | some old =>
      obtain rfl : old.id = id := by simpa using List.find?_some found
      have version
          : (step.withId old.id).withBody
              (if old.sameContainer step = true then old.body?.getD [] else [])
            = versionOf old step := rfl
      have renamed := release_renamed session.environment old (versionOf old step)
      simp only [version, walk_eq_listingOf, leaving, release_append, ← renamed]
      rfl

theorem edit_eq_ok {session after : EditorSession} {id : StepId} {step : Step}
    (accepted : session.edit id step = .ok after)
    : ∃ old steps,
        session.steps.find? id = some old
        ∧ session.stepConflict? (versionOf old step) = none
        ∧ session.steps.replace? id (versionOf old step) = some steps
        ∧ after = { session with
            steps := steps
            environment :=
              register (release session.environment (leaving old step)) [versionOf old step] } := by
  rw [edit_eq] at accepted
  split at accepted
  · simp at accepted
  · next old found =>
      split at accepted
      · simp at accepted
      · next admitted =>
          obtain rfl : old.id = id := by simpa using List.find?_some found
          have place : (session.steps.replace? old.id (versionOf old step)).isSome := by
            rw [StepTree.find?, StepTree.toList_eq] at found
            simp [StepTree.replace?, editFirst?_isSome, found]
          obtain ⟨steps, replaced⟩ := Option.isSome_iff_exists.mp place
          rw [replaced] at accepted
          exact ⟨old, steps, found, admitted, replaced, (Except.ok.inj accepted).symm⟩

/-- A step is taken out of the tree, and the names that it and the steps within it declare out of
the variables.
-/
theorem remove_eq_ok {session after : EditorSession} {id : StepId} {taken : Step}
    (accepted : session.remove id = .ok (taken, after))
    : ∃ steps,
        session.steps.remove? id = some (taken, steps)
        ∧ after = { session with
            steps := steps
            environment := (session.environment.deleteDeclared session.steps id).2 } := by
  rw [remove] at accepted
  split at accepted
  · simp at accepted
  · next removed steps removal =>
      obtain ⟨rfl, rfl⟩ := Prod.mk.inj (Except.ok.inj accepted)
      exact ⟨steps, removal, rfl⟩

/-- The steps of a place are taken out of the tree, and the names that they declare out of the
variables.
-/
theorem clear_eq_ok {session after : EditorSession} {container : Option StepId}
    {taken : List Step} (accepted : session.clear container = .ok (taken, after))
    : ∃ steps,
        session.steps.clear? container = some (taken, steps)
        ∧ after = { session with
            steps := steps
            environment :=
              (session.environment.deleteAll
                ((listingOf taken).filterMap Step.declaredName?)).2 } := by
  rw [clear] at accepted
  split at accepted
  · simp at accepted
  · next room =>
      have room := (containerRefusal?_eq_none_iff ..).mp room
      have emptied := room
      rw [← StepTree.editSiblings?_isSome _ _ (fun _ => [])] at emptied
      obtain ⟨siblings, listed⟩ := Option.isSome_iff_exists.mp room
      obtain ⟨steps, edited⟩ := Option.isSome_iff_exists.mp emptied
      have cleared : session.steps.clear? container = some (siblings, steps) := by
        simp [StepTree.clear?, listed, edited]
      simp only [cleared, Option.getD_some] at accepted
      obtain ⟨rfl, rfl⟩ := Prod.mk.inj (Except.ok.inj accepted)
      exact ⟨steps, cleared, by rw [walk_eq_listingOf]⟩

theorem reorder?_eq_some {session after : EditorSession} {source destination : Nat}
    {container : Option StepId}
    (accepted : session.reorder? source destination container = some after)
    : ∃ steps,
        session.steps.reorder? source destination container = some steps
        ∧ after = { session with steps := steps } := by
  obtain ⟨steps, moved, rfl⟩ := Option.map_eq_some_iff.mp accepted
  exact ⟨steps, moved, rfl⟩

end DesktopAutomation.EditorSession
