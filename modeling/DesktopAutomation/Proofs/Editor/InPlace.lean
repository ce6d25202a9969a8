import DesktopAutomation.Proofs.Editor.Operation
import DesktopAutomation.Proofs.Tree.Lookup

/-! Edits that are carried out in place, check by check and change by change. What was changed stays
changed if a later check refuses the edit; still no refused edit leaves a trace. A removal is the
only one that changes something first, and it finds no variables where it finds no step.
-/

namespace DesktopAutomation.EditorSession
open Environment

-----------------------------------------------------------------------------------------
-- Checks and changes
-----------------------------------------------------------------------------------------

/-- An edit that changes a session bit by bit. It is refused with the session as it is then. -/
abbrev InPlace (α : Type) := EStateM AutomationError EditorSession α

/-- Refuses an edit if there is a reason. -/
def refuseIf (reason? : EditorSession → Option AutomationError) : InPlace Unit := fun session =>
  match reason? session with
  | some reason => .error reason session
  | none => .ok () session

def changeSteps (change : StepTree → StepTree) : InPlace Unit :=
  modify fun session => { session with steps := change session.steps }

def changeVariables (change : Environment → Environment) : InPlace Unit :=
  modify fun session => { session with environment := change session.environment }

section
variable {α : Type}

theorem get_bind (next : EditorSession → InPlace α) (session : EditorSession)
    : (get >>= next) session = next session session :=
  rfl

/-- A change of the variables shows in what comes next. -/
theorem changeVariables_bind (change : Environment → Environment) (next : Unit → InPlace α)
    (session : EditorSession)
    : (changeVariables change >>= next) session
      = next () { session with environment := change session.environment } :=
  rfl

/-- An edit that is refused goes no further, and leaves the session as it is so far. -/
theorem refuseIf_bind_of_some {reason? : EditorSession → Option AutomationError}
    {session : EditorSession} {reason : AutomationError} (refused : reason? session = some reason)
    (next : Unit → InPlace α)
    : (refuseIf reason? >>= next) session = .error reason session := by
  simp [bind, EStateM.bind, refuseIf, refused]

/-- An edit that is not refused goes on with the session as it is. -/
theorem refuseIf_bind_of_none {reason? : EditorSession → Option AutomationError}
    {session : EditorSession} (passed : reason? session = none) (next : Unit → InPlace α)
    : (refuseIf reason? >>= next) session = next () session := by
  simp [bind, EStateM.bind, refuseIf, passed]

/-- One check for each item, up to the first that refuses, is one check of all items. -/
theorem forM_refuseIf (reason? : α → EditorSession → Option AutomationError) (items : List α)
    : (forM items fun item => refuseIf (reason? item))
      = refuseIf fun session => items.findSome? fun item => reason? item session := by
  induction items with
  | nil => rfl
  | cons item rest ih =>
      rw [List.forM_cons, ih]
      funext session
      cases refused : reason? item session with
      | some reason => rw [refuseIf_bind_of_some refused]; simp [refuseIf, refused]
      | none => rw [refuseIf_bind_of_none refused]; simp [refuseIf, refused]

/-- One change for each item makes up one change of all variables. -/
theorem forM_changeVariables (change : α → Environment → Environment) (items : List α)
    : (forM items fun item => changeVariables (change item))
      = changeVariables fun environment =>
          items.foldl (fun changed item => change item changed) environment := by
  induction items with
  | nil => rfl
  | cons item rest ih =>
      rw [List.forM_cons, ih]
      rfl

end

/-- Steps are registered one by one. -/
theorem register_eq_foldl (environment : Environment) (steps : List Step)
    : register environment steps
      = steps.foldl (fun bound step => register bound [step]) environment := by
  induction steps generalizing environment with
  | nil => rfl
  | cons step rest ih =>
      rw [List.foldl_cons, ← ih]
      cases declares : step.declaration? <;> simp [register, declares]

/-- Names are deleted one by one. -/
theorem deleteAll_eq_foldl (environment : Environment) (names : List String)
    : (environment.deleteAll names).2 = names.foldl delete environment := by
  induction names generalizing environment with
  | nil => rfl
  | cons name rest ih => rw [deleteAll_cons, ih, List.foldl_cons]

-----------------------------------------------------------------------------------------
-- Edits
-----------------------------------------------------------------------------------------

/-- The edits of a session that may be refused. -/
inductive Edit
  | add (step : Step) (parent : Option StepId)
  | edit (id : StepId) (step : Step)
  | remove (id : StepId)
  | clear (container : Option StepId)

/-- The steps that an edit takes out and the session behind it, or why it is refused. -/
def attempt (session : EditorSession)
    : Edit → Except AutomationError (List Step × EditorSession)
  | .add step parent => (session.add step parent).map ([], ·)
  | .edit id step => (session.edit id step).map ([], ·)
  | .remove id => (session.remove id).map fun (taken, after) => ([taken], after)
  | .clear container => session.clear container

/-- Checks the new steps among themselves, then the place, then each step; only then the tree is
changed, and the variables step by step.
-/
def addInPlace (step : Step) (parent : Option StepId) : InPlace Unit := do
  refuseIf fun session => (newcomerConflict? session.steps [] [] (walk [step])).map .conflict
  refuseIf fun session => containerRefusal? session.steps parent
  forM (walk [step]) fun new =>
    refuseIf fun session => (session.stepConflict? new).map .conflict
  changeSteps fun tree => (tree.insert? step parent).getD tree
  forM (walk [step]) fun new => changeVariables (register · [new])

/-- Checks the version, then drops the names that leave one by one, registers the version and puts
it in place.
-/
def editInPlace (id : StepId) (step : Step) : InPlace Unit := do
  match (← get).steps.find? id with
  | none => throw (.notFound (.step id))
  | some old =>
    refuseIf fun session => (session.stepConflict? (versionOf old step)).map .conflict
    forM (leaving old step) fun lost => changeVariables (release · [lost])
    changeVariables (register · [versionOf old step])
    changeSteps fun tree => (tree.replace? id (versionOf old step)).getD tree

/-- Drops the names that the step with the id declares, and looks for the step after that. -/
def removeInPlace (id : StepId) : InPlace Step := do
  let tree := (← get).steps
  changeVariables fun environment => (environment.deleteDeclared tree id).2
  match (← get).steps.remove? id with
  | none => throw (.notFound (.step id))
  | some (taken, left) =>
    changeSteps fun _ => left
    return taken

/-- Checks the place, then empties it, then drops the names one by one. -/
def clearInPlace (container : Option StepId) : InPlace (List Step) := do
  refuseIf fun session => containerRefusal? session.steps container
  let tree := (← get).steps
  let (taken, left) := (tree.clear? container).getD ([], tree)
  changeSteps fun _ => left
  forM ((walk taken).filterMap Step.declaredName?) fun name => changeVariables (·.delete name)
  return taken

/-- Carries out an edit in place. The result are the steps taken out. -/
def Edit.inPlace : Edit → InPlace (List Step)
  | .add step parent => do
    addInPlace step parent
    return []
  | .edit id step => do
    editInPlace id step
    return []
  | .remove id => do
    return [← removeInPlace id]
  | .clear container => clearInPlace container

-----------------------------------------------------------------------------------------
-- All or nothing
-----------------------------------------------------------------------------------------

/-- The end of an edit in place that changes everything or nothing. -/
def atOnce {α : Type} (session : EditorSession)
    : Except AutomationError (α × EditorSession)
      → EStateM.Result AutomationError EditorSession α
  | .ok (value, after) => .ok value after
  | .error refusal => .error refusal session

/-- Adding a step in place comes to the same as adding it at once: all checks come before the first
change.
-/
theorem addInPlace_eq (session : EditorSession) (step : Step) (parent : Option StepId)
    : addInPlace step parent session = session.atOnce ((session.add step parent).map ((), ·)) := by
  rw [addInPlace, forM_refuseIf, forM_changeVariables, add]
  cases newcomers : newcomerConflict? session.steps [] [] (walk [step]) with
  | some conflict =>
      rw [refuseIf_bind_of_some (by rw [newcomers]; rfl)]
      rfl
  | none =>
      rw [refuseIf_bind_of_none (by rw [newcomers]; rfl)]
      cases place : containerRefusal? session.steps parent with
      | some refusal => exact refuseIf_bind_of_some place _
      | none =>
          rw [refuseIf_bind_of_none place]
          have stepwise
              : ((walk [step]).findSome? fun new =>
                  (session.stepConflict? new).map AutomationError.conflict)
                = ((walk [step]).findSome? session.stepConflict?).map .conflict :=
            List.map_findSome?.symm
          cases admitted : (walk [step]).findSome? session.stepConflict? with
          | some conflict =>
              rw [refuseIf_bind_of_some (by rw [stepwise, admitted]; rfl)]
              rfl
          | none =>
              rw [refuseIf_bind_of_none (by rw [stepwise, admitted]; rfl)]
              simp only [register_eq_foldl _ (walk _)]
              rfl

/-- Editing a step in place comes to the same as editing it at once. -/
theorem editInPlace_eq (session : EditorSession) (id : StepId) (step : Step)
    : editInPlace id step session = session.atOnce ((session.edit id step).map ((), ·)) := by
  rw [edit_eq, editInPlace]
  simp only [forM_changeVariables]
  rw [get_bind]
  cases session.steps.find? id with
  | none => rfl
  | some old =>
      cases admitted : session.stepConflict? (versionOf old step) with
      | some conflict =>
          simp only
          rw [refuseIf_bind_of_some (by rw [admitted]; rfl)]
          simp only [admitted]
          rfl
      | none =>
          simp only
          rw [refuseIf_bind_of_none (by rw [admitted]; rfl)]
          simp only [admitted]
          rfl

/-- Where no step has the id, no variables are dropped. -/
theorem removeInPlace_eq (session : EditorSession) (id : StepId)
    : removeInPlace id session = session.atOnce (session.remove id) := by
  rw [remove, removeInPlace, get_bind]
  simp only
  rw [changeVariables_bind, get_bind]
  cases removal : session.steps.remove? id with
  | none =>
      have absent := StepTree.remove?_isSome session.steps id
      rw [removal, StepTree.contains, Option.isSome_none, eq_comm, Option.isSome_eq_false_iff,
        Option.isNone_iff_eq_none] at absent
      have untouched : (session.environment.deleteDeclared session.steps id).2
          = session.environment := by
        rw [deleteDeclared, absent]
      simp only [untouched]
      rfl
  | some parts => rfl

/-- Clearing a place in place comes to the same as clearing it at once. -/
theorem clearInPlace_eq (session : EditorSession) (container : Option StepId)
    : clearInPlace container session = session.atOnce (session.clear container) := by
  rw [clear, clearInPlace]
  simp only [forM_changeVariables]
  cases place : containerRefusal? session.steps container with
  | some refusal => exact refuseIf_bind_of_some place _
  | none =>
      rw [refuseIf_bind_of_none place]
      simp only [deleteAll_eq_foldl]
      rfl

/-- An edit in place ends as the edit at once does: what is refused changes nothing. -/
theorem Edit.inPlace_eq (session : EditorSession) (edit : Edit)
    : edit.inPlace session = session.atOnce (session.attempt edit) := by
  cases edit with
  | add step parent =>
      simp only [inPlace, bind, EStateM.bind, addInPlace_eq, attempt]
      cases session.add step parent <;> rfl
  | edit id step =>
      simp only [inPlace, bind, EStateM.bind, editInPlace_eq, attempt]
      cases session.edit id step <;> rfl
  | remove id =>
      simp only [inPlace, bind, EStateM.bind, removeInPlace_eq, attempt]
      cases session.remove id <;> rfl
  | clear container => exact clearInPlace_eq session container

end DesktopAutomation.EditorSession
