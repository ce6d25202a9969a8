import DesktopAutomation.Proofs.Editor.Operation
import DesktopAutomation.Proofs.Run.Spelling
import DesktopAutomation.Proofs.Tree.Spelling

/-! Sessions do not tell a name from its key: a session with keyed steps accepts the same
operations, and the variables behind them are the same.
-/

namespace DesktopAutomation.EditorSession
open Environment

-----------------------------------------------------------------------------------------
-- Checks
-----------------------------------------------------------------------------------------

/-- The session with every name in its steps replaced by its key. Its variables have keys already.
-/
def keyed (session : EditorSession) : EditorSession := { session with steps := session.steps.keyed }

theorem keyed_steps (session : EditorSession) : session.keyed.steps = session.steps.keyed := rfl

theorem keyed_environment (session : EditorSession)
    : session.keyed.environment = session.environment :=
  rfl

/-- New steps run into the same first conflict whatever the case of names, by induction over them.
-/
theorem newcomerConflict?_keyedAll (tree : StepTree) (seen : List StepId)
    (owners : List (String × StepId)) (steps : List Step)
    : newcomerConflict? tree.keyed seen owners (keyedAll steps)
      = (newcomerConflict? tree seen owners steps).map ConflictError.keyed := by
  induction steps generalizing seen owners with
  | nil => rfl
  | cons step rest ih =>
      rw [keyedAll, newcomerConflict?, newcomerConflict?]
      simp only [StepTree.keyed_contains, Step.keyed_id, Step.keyed_declaredName?,
        Step.declaredKey?, ih]
      split
      · rfl
      · cases step.declaredName? with
        | none => rfl
        | some name =>
            simp only [Option.map_some, keyOf_keyOf]
            split <;> rfl

/-- A variable is owned by another step in either spelling. -/
theorem ownershipConflict?_keyed (environment : Environment) (step : Step)
    : ownershipConflict? environment step.keyed
      = (ownershipConflict? environment step).map ConflictError.keyed := by
  rw [ownershipConflict?, Step.keyed_declaredName?, Step.declaredKey?, ownershipConflict?]
  cases step.declaredName? with
  | none => rfl
  | some name =>
      simp only [Option.map_some, Option.bind_eq_bind, Option.bind_some, get?_keyOf,
        Step.keyed_id]
      cases environment.get? name with
      | none => rfl
      | some existing =>
          simp only [Option.bind_some]
          split <;> rfl

/-- A target is off the screen in either spelling, for names play no part in it. -/
theorem pointerConflict?_keyed (screen : Screen) (step : Step)
    : pointerConflict? screen step.keyed
      = (pointerConflict? screen step).map ConflictError.keyed := by
  rw [pointerConflict?, Step.keyed_target?, pointerConflict?]
  cases step.target? with
  | none => rfl
  | some target =>
      simp only [Option.bind_eq_bind, Option.bind_some]
      split <;> rfl

/-- Whether a step may stand in a session does not depend on the case of its names. -/
theorem stepConflict?_keyed (session : EditorSession) (step : Step)
    : session.keyed.stepConflict? step.keyed
      = (session.stepConflict? step).map ConflictError.keyed := by
  rw [stepConflict?, stepConflict?, Option.map_or, ← ownershipConflict?_keyed,
    ← pointerConflict?_keyed]
  rfl

/-- A container is refused for its id and its kind, which have no case. -/
theorem containerRefusal?_keyed (tree : StepTree) (container : Option StepId)
    : containerRefusal? tree.keyed container
      = (containerRefusal? tree container).map AutomationError.keyed := by
  cases container with
  | none => rfl
  | some id =>
      rw [containerRefusal?, StepTree.keyed_find?, containerRefusal?]
      cases tree.find? id with
      | none => rfl
      | some step =>
          simp only [Option.map_some, Step.keyed_isContainer]
          split <;> rfl

-----------------------------------------------------------------------------------------
-- Variables
-----------------------------------------------------------------------------------------

/-- The variables of steps are registered under the same keys in either spelling. -/
theorem register_keyedAll (environment : Environment) (steps : List Step)
    : register environment (keyedAll steps) = register environment steps := by
  induction steps generalizing environment with
  | nil => rfl
  | cons step rest ih =>
      rw [keyedAll]
      cases declares : step.declaration? with
      | none =>
          rw [register_cons_none _ _ declares, register_cons_none _ _ (by
            rw [Step.keyed_declaration?, declares, Option.map_none]), ih]
      | some declared =>
          rw [register_cons_some _ _ declares, register_cons_some _ _ (by
            rw [Step.keyed_declaration?, declares, Option.map_some]), ih, set_keyOf]

/-- The variables of steps are released under the same keys in either spelling. -/
theorem release_keyedAll (environment : Environment) (steps : List Step)
    : release environment (keyedAll steps) = release environment steps := by
  rw [release, keyedAll_eq_map, List.foldl_map, release]
  congr 1
  funext bound step
  rw [Step.keyed_declaredName?, Step.declaredKey?]
  cases step.declaredName? with
  | none => rfl
  | some name => simp only [Option.map_some, deleteOwned, get?_keyOf, Step.keyed_id, delete_keyOf]

/-- Steps in lower case declare the keys of the names that they declare. -/
theorem declaredNames_keyedAll (steps : List Step)
    : (keyedAll steps).filterMap Step.declaredName?
      = (steps.filterMap Step.declaredName?).map keyOf := by
  rw [keyedAll_eq_map, List.filterMap_map, List.map_filterMap]
  exact List.filterMap_congr fun step _ => step.keyed_declaredName?

/-- What a step declares is deleted under the same keys in either spelling. -/
theorem deleteDeclared_keyed (environment : Environment) (tree : StepTree) (id : StepId)
    : environment.deleteDeclared tree.keyed id = environment.deleteDeclared tree id := by
  rw [deleteDeclared, StepTree.keyed_find?, deleteDeclared]
  cases tree.find? id with
  | none => rfl
  | some step =>
      have listed : walk [step.keyed] = keyedAll (walk [step]) := walk_keyedAll [step]
      simp only [Option.map_some, listed, declaredNames_keyedAll, deleteAll_keyOf]

/-- A version of a step keeps its id and body in either spelling. -/
theorem versionOf_keyed (old step : Step)
    : versionOf old.keyed step.keyed = (versionOf old step).keyed := by
  rw [versionOf, versionOf, Step.keyed_withBody, Step.keyed_withId, Step.keyed_id,
    Step.keyed_sameContainer, Step.keyed_body?]
  split
  · cases old.body? <;> rfl
  · rfl

/-- The steps that leave with an edit are the same in either spelling. -/
theorem leaving_keyed (old step : Step)
    : leaving old.keyed step.keyed = keyedAll (leaving old step) := by
  rw [leaving, leaving, keyedAll_append, versionOf_keyed, Step.keyed_declaredKey?,
    Step.keyed_declaredKey?, Step.keyed_sameContainer, Step.keyed_body?]
  congr 1
  · split <;> rfl
  · split
    · rfl
    · rw [← listingOf_keyedAll]
      cases old.body? <;> rfl

-----------------------------------------------------------------------------------------
-- Edits
-----------------------------------------------------------------------------------------

/-- What an attempt gives, with every name replaced by its key. -/
def keyedAttempt {α β : Type} (keyedValue : α → β)
    : Except AutomationError α → Except AutomationError β
  | .ok value => .ok (keyedValue value)
  | .error refusal => .error refusal.keyed

/-- Adding a step in lower case to a session in lower case gives the outcome in lower case. -/
theorem add_keyed (session : EditorSession) (step : Step) (parent : Option StepId)
    : session.keyed.add step.keyed parent = keyedAttempt keyed (session.add step parent) := by
  have listed : walk [step.keyed] = keyedAll (walk [step]) := walk_keyedAll [step]
  have admitted
      : (keyedAll (walk [step])).findSome? session.keyed.stepConflict?
        = ((walk [step]).findSome? session.stepConflict?).map ConflictError.keyed := by
    rw [keyedAll_eq_map, List.findSome?_map, List.map_findSome?]
    congr 1
    funext new
    exact stepConflict?_keyed session new
  rw [add, listed, add]
  simp only [admitted, keyed_steps, keyed_environment, newcomerConflict?_keyedAll,
    containerRefusal?_keyed, StepTree.keyed_insert?, register_keyedAll]
  cases newcomerConflict? session.steps [] [] (walk [step]) with
  | some conflict => rfl
  | none =>
      cases containerRefusal? session.steps parent with
      | some refusal => rfl
      | none =>
          cases (walk [step]).findSome? session.stepConflict? with
          | some conflict => rfl
          | none => cases session.steps.insert? step parent <;> rfl

/-- Editing a step in lower case gives the outcome in lower case. -/
theorem edit_keyed (session : EditorSession) (id : StepId) (step : Step)
    : session.keyed.edit id step.keyed = keyedAttempt keyed (session.edit id step) := by
  rw [edit_eq, edit_eq]
  have found : session.keyed.steps.find? id = (session.steps.find? id).map Step.keyed :=
    session.steps.keyed_find? id
  rw [found]
  cases session.steps.find? id with
  | none => rfl
  | some old =>
      have registered (environment : Environment) (version : Step)
          : register environment [version.keyed] = register environment [version] :=
        register_keyedAll environment [version]
      simp only [Option.map_some, versionOf_keyed, stepConflict?_keyed]
      cases session.stepConflict? (versionOf old step) with
      | some conflict => rfl
      | none =>
          simp only [Option.map_none, keyed_steps, keyed_environment, leaving_keyed,
            release_keyedAll, registered, StepTree.keyed_replace?]
          cases session.steps.replace? id (versionOf old step) <;> rfl

/-- Removing a step from a session in lower case gives the outcome in lower case. -/
theorem remove_keyed (session : EditorSession) (id : StepId)
    : session.keyed.remove id
      = keyedAttempt (fun (taken, after) => (taken.keyed, after.keyed)) (session.remove id) := by
  rw [remove, remove]
  simp only [keyed_steps, keyed_environment, StepTree.keyed_remove?, deleteDeclared_keyed]
  cases session.steps.remove? id <;> rfl

/-- Clearing a place of a session in lower case gives the outcome in lower case. -/
theorem clear_keyed (session : EditorSession) (container : Option StepId)
    : session.keyed.clear container
      = keyedAttempt (fun (taken, after) => (keyedAll taken, after.keyed))
          (session.clear container) := by
  rw [clear, clear]
  simp only [keyed_steps, keyed_environment, containerRefusal?_keyed, StepTree.keyed_clear?]
  cases containerRefusal? session.steps container with
  | some refusal => rfl
  | none =>
      cases session.steps.clear? container with
      | none => rfl
      | some parts =>
        simp only [Option.map_none, Option.map_some, Option.getD_some, walk_keyedAll,
          declaredNames_keyedAll, deleteAll_keyOf]
        rfl

/-- Steps are moved by their positions, which have no case. -/
theorem reorder?_keyed (session : EditorSession) (source destination : Nat)
    (container : Option StepId)
    : session.keyed.reorder? source destination container
      = (session.reorder? source destination container).map keyed := by
  rw [reorder?, reorder?]
  simp only [keyed_steps, StepTree.keyed_reorder?, Option.map_map]
  rfl

-----------------------------------------------------------------------------------------
-- Operations
-----------------------------------------------------------------------------------------

/-- The operation with every name in its step replaced by its key. -/
def Operation.keyed : Operation → Operation
  | .add step parent => .add step.keyed parent
  | .edit id step => .edit id step.keyed
  | .remove id => .remove id
  | .reorder source destination container => .reorder source destination container
  | .clear container => .clear container
  | .capture => .capture
  | .addCaptured parent => .addCaptured parent
  | .run controls offlineAfter => .run controls offlineAfter
  | .send dispatch => .send dispatch
  | .switchOffline offline => .switchOffline offline

/-- The operation is not refused. A run is not if it comes to its end. -/
def accepts (session : EditorSession) : Operation → Bool
  | .add step parent => (session.add step parent).isOk
  | .edit id step => (session.edit id step).isOk
  | .remove id => (session.remove id).isOk
  | .reorder source destination container =>
    (session.reorder? source destination container).isSome
  | .clear container => (session.clear container).isOk
  | .capture => session.captureMove.isOk
  | .addCaptured parent =>
    (session.captureMove.bind fun step => session.add step parent).isOk
  | .run controls offlineAfter => (session.run controls offlineAfter).1.error?.isNone
  | .send dispatch => (session.send dispatch).isOk
  | .switchOffline _ => true

/-- Which of some operations are accepted, each behind those before it. -/
def decisions (session : EditorSession) : List Operation → List Bool
  | [] => []
  | operation :: rest => session.accepts operation :: (session.perform operation).decisions rest

/-- An attempt succeeds in either spelling. -/
theorem isOk_keyedAttempt {α β : Type} (keyedValue : α → β) (attempt : Except AutomationError α)
    : (keyedAttempt keyedValue attempt).isOk = attempt.isOk := by
  cases attempt <;> rfl

/-- A refused attempt leaves the session as it was, and an accepted one changes it, in either
spelling.
-/
theorem settled_keyedAttempt (session : EditorSession)
    (attempt : Except AutomationError EditorSession)
    : session.keyed.settled (keyedAttempt keyed attempt) = (session.settled attempt).keyed := by
  cases attempt <;> rfl

theorem map_snd_keyedAttempt {α : Type} (keyedValue : α → α)
    (attempt : Except AutomationError (α × EditorSession))
    : (keyedAttempt (fun (value, after) => (keyedValue value, keyed after)) attempt).map (·.2)
      = keyedAttempt keyed (attempt.map (·.2)) := by
  cases attempt <;> rfl

/-- A captured move names nothing, so it is the same in either spelling. -/
theorem captureMove_keyed (session : EditorSession)
    : session.keyed.captureMove = session.captureMove := by
  simp only [captureMove, nextId, keyed_steps, StepTree.keyed_nextId]
  rfl

/-- A captured step has no names. -/
theorem addCaptured_keyed (session : EditorSession) (parent : Option StepId)
    : (session.keyed.captureMove.bind fun step => session.keyed.add step parent)
      = keyedAttempt keyed (session.captureMove.bind fun step => session.add step parent) := by
  rw [captureMove_keyed, captureMove]
  cases session.device.pointer? with
  | error error => rfl
  | ok point =>
      have nameless : (Step.action session.nextId (.move point)).keyed
          = .action session.nextId (.move point) := Step.keyed_action ..
      have added := add_keyed session (.action session.nextId (.move point)) parent
      rwa [nameless] at added

/-- A run of the steps in lower case does the same as a run of the steps as they are spelled. -/
theorem run_keyed (session : EditorSession) (controls : Run.Controls) (offlineAfter : Option Nat)
    : let ofKeyed := session.keyed.run controls offlineAfter
      let outcome := session.run controls offlineAfter
      ofKeyed.1.error? = outcome.1.error?.map RunError.keyed
      ∧ ofKeyed.2 = outcome.2.keyed := by
  obtain ⟨error, world⟩ := Run.play_keyedAll FailingScreen.backend controls session.steps.steps
    (FailingScreen.settle ⟨session.device, offlineAfter⟩) session.environment
  refine ⟨error, ?_⟩
  have device := congrArg (fun world => world.device.device) world
  exact congrArg (fun device : VirtualScreen => { session.keyed with device := device }) device

theorem send_keyed (session : EditorSession) (dispatch : Dispatch)
    : session.keyed.send dispatch = keyedAttempt keyed (session.send dispatch) := by
  rw [send, send]
  have same : session.keyed.device = session.device := rfl
  rw [same]
  obtain ⟨error?, device⟩ := session.device.send dispatch
  cases error? <;> rfl

/-- An operation is accepted in either spelling, case by case. -/
theorem accepts_keyed (session : EditorSession) (operation : Operation)
    : session.keyed.accepts operation.keyed = session.accepts operation := by
  cases operation with
  | add step parent => simp only [accepts, Operation.keyed, add_keyed, isOk_keyedAttempt]
  | edit id step => simp only [accepts, Operation.keyed, edit_keyed, isOk_keyedAttempt]
  | remove id => simp only [accepts, Operation.keyed, remove_keyed, isOk_keyedAttempt]
  | reorder source destination container =>
      simp only [accepts, Operation.keyed, reorder?_keyed, Option.isSome_map]
  | clear container => simp only [accepts, Operation.keyed, clear_keyed, isOk_keyedAttempt]
  | capture => simp only [accepts, Operation.keyed, captureMove_keyed]
  | addCaptured parent =>
      simp only [accepts, Operation.keyed, addCaptured_keyed, isOk_keyedAttempt]
  | run controls offlineAfter =>
      simp only [accepts, Operation.keyed, (run_keyed session controls offlineAfter).1,
        Option.isNone_map]
  | send dispatch => simp only [accepts, Operation.keyed, send_keyed, isOk_keyedAttempt]
  | switchOffline offline => rfl

/-- An operation in lower case leads to the session in lower case, case by case. -/
theorem perform_keyed (session : EditorSession) (operation : Operation)
    : session.keyed.perform operation.keyed = (session.perform operation).keyed := by
  cases operation with
  | add step parent => simp only [perform, Operation.keyed, add_keyed, settled_keyedAttempt]
  | edit id step => simp only [perform, Operation.keyed, edit_keyed, settled_keyedAttempt]
  | remove id =>
      rw [perform, Operation.keyed, perform, remove_keyed, ← settled_keyedAttempt]
      exact congrArg _ (map_snd_keyedAttempt ..)
  | reorder source destination container =>
      simp only [perform, Operation.keyed, reorder?_keyed]
      cases session.reorder? source destination container <;> rfl
  | clear container =>
      rw [perform, Operation.keyed, perform, clear_keyed, ← settled_keyedAttempt]
      exact congrArg _ (map_snd_keyedAttempt ..)
  | capture => rfl
  | addCaptured parent =>
      simp only [perform, Operation.keyed, addCaptured_keyed, settled_keyedAttempt]
  | run controls offlineAfter => exact (run_keyed session controls offlineAfter).2
  | send dispatch => simp only [perform, Operation.keyed, send_keyed, settled_keyedAttempt]
  | switchOffline offline => rfl

/-- Any operations are accepted and refused alike in either spelling, by induction over them. -/
theorem decisions_keyed (session : EditorSession) (operations : List Operation)
    : session.keyed.decisions (operations.map Operation.keyed) = session.decisions operations := by
  induction operations generalizing session with
  | nil => rfl
  | cons operation rest ih =>
      rw [List.map_cons, decisions, decisions, accepts_keyed, perform_keyed, ih]

/-- Any operations in lower case lead to the session in lower case, by induction over them. -/
theorem performAll_keyed (session : EditorSession) (operations : List Operation)
    : session.keyed.performAll (operations.map Operation.keyed)
      = (session.performAll operations).keyed := by
  induction operations generalizing session with
  | nil => rfl
  | cons operation rest ih =>
      rw [performAll, List.map_cons, List.foldl_cons, perform_keyed]
      exact ih (session.perform operation)

/-- Steps that differ in the spelling of names only make the same run: they send the same and take
the same time, and leave the same variables; a run that fails does so at the same step and for the
same reason, but for the spelling of a name. In a session, operations that differ in the spelling of
names only are accepted alike, and leave the same variables and the same steps but for the spelling.
-/
theorem caseInsensitive {steps others : List Step} (respelled : keyedAll steps = keyedAll others)
    {operations otherOperations : List Operation}
    (operationsRespelled
      : operations.map Operation.keyed = otherOperations.map Operation.keyed)
    : (∀ {σ : Type} (backend : InputBackend σ) (controls : Run.Controls) (device : σ)
          (environment : Environment),
        let first := Run.play backend controls steps device environment
        let second := Run.play backend controls others device environment
        Run.sent first.events = Run.sent second.events
        ∧ first.world.device = second.world.device
        ∧ first.world.clock = second.world.clock
        ∧ first.world.environment = second.world.environment
        ∧ first.error?.map RunError.keyed = second.error?.map RunError.keyed)
      ∧ ∀ session : EditorSession,
          session.decisions operations = session.decisions otherOperations
          ∧ (session.performAll operations).environment
            = (session.performAll otherOperations).environment
          ∧ (session.performAll operations).steps.keyed
            = (session.performAll otherOperations).steps.keyed := by
  constructor
  · intro σ backend controls device environment first second
    obtain ⟨firstError, firstWorld⟩ :=
      Run.play_keyedAll backend controls steps device environment
    obtain ⟨secondError, secondWorld⟩ :=
      Run.play_keyedAll backend controls others device environment
    rw [respelled] at firstError firstWorld
    have world : first.world.keyed = second.world.keyed := firstWorld.symm.trans secondWorld
    have history := congrArg Run.World.history world
    refine ⟨?_, (congrArg Run.World.device world :), (congrArg Run.World.clock world :),
      (congrArg Run.World.environment world :), firstError.symm.trans secondError⟩
    rw [← Run.sent_map_keyed, ← Run.sent_map_keyed second.events, Run.Report.events,
      Run.Report.events, List.map_reverse, List.map_reverse]
    exact congrArg (fun events => Run.sent events.reverse) history
  · intro session
    have performed
        : (session.performAll operations).keyed = (session.performAll otherOperations).keyed := by
      rw [← performAll_keyed, operationsRespelled, performAll_keyed]
    refine ⟨?_, (congrArg environment performed :), congrArg EditorSession.steps performed⟩
    rw [← decisions_keyed, operationsRespelled, decisions_keyed]

/-- Rows are typed and then a variable is missed; and a name is declared for a second time. It does
not matter how the names are spelled.
-/
theorem caseInsensitive_rows
    : let steps : List Step :=
        [.statement ⟨1⟩ (.cycle "Rows" "Row") [.action ⟨2⟩ (.write "" "ROW")],
          .action ⟨3⟩ (.write "" "Absent")]
      let others : List Step :=
        [.statement ⟨1⟩ (.cycle "ROWS" "row") [.action ⟨2⟩ (.write "" "rOw")],
          .action ⟨3⟩ (.write "" "aBSENT")]
      let operations : List Operation :=
        [.add (.action ⟨1⟩ (.setVariable "Name" "x")) none,
          .add (.action ⟨2⟩ (.setVariable "NAME" "y")) none]
      let otherOperations : List Operation :=
        [.add (.action ⟨1⟩ (.setVariable "nAME" "x")) none,
          .add (.action ⟨2⟩ (.setVariable "name" "y")) none]
      let environment : Environment := ⟨.ofList [("rows", .ofTexts ⟨9⟩ ["a", "b"])], []⟩
      let report := Run.play VirtualScreen.backend (.steady 0) others (.blank .standard) environment
      keyedAll steps = keyedAll others
      ∧ operations.map Operation.keyed = otherOperations.map Operation.keyed
      ∧ Run.sent report.events = [.text "a", .text "b"]
      ∧ report.error?.map RunError.keyed = some (.variableNotFound ⟨3⟩ "absent")
      ∧ (fresh (.blank .standard)).decisions otherOperations = [true, false] := by
  intro steps others operations otherOperations environment report
  have respelled : keyedAll steps = keyedAll others := by decide +kernel
  have operationsRespelled
      : operations.map Operation.keyed = otherOperations.map Operation.keyed := by
    have names : keyOf "Name" = keyOf "nAME" ∧ keyOf "NAME" = keyOf "name" := by decide +kernel
    simp only [operations, otherOperations, List.map_cons, List.map_nil, Operation.keyed,
      Step.keyed_action, Action.keyed, names]
  obtain ⟨runs, sessions⟩ := caseInsensitive respelled operationsRespelled
  obtain ⟨sent, _, _, _, error⟩ :=
    runs VirtualScreen.backend (.steady 0) (.blank .standard) environment
  obtain ⟨decisions, _⟩ := sessions (fresh (.blank .standard))
  refine ⟨respelled, operationsRespelled, sent.symm.trans ?_, error.symm.trans ?_,
    decisions.symm.trans ?_⟩
  · decide +kernel
  · decide +kernel
  · decide +kernel

end DesktopAutomation.EditorSession
