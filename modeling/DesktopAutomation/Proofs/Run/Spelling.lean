import DesktopAutomation.Proofs.Run.Calls
import DesktopAutomation.Proofs.Step.Spelling

/-! Runs do not tell a name from its key. Keyed steps do in a keyed world what the steps do, and
only the history and an error spell the names in another way.
-/

namespace DesktopAutomation.Run
open Deed

variable {σ : Type}

-----------------------------------------------------------------------------------------
-- Keyed worlds
-----------------------------------------------------------------------------------------

/-- The event with every name in it replaced by its key. -/
def Event.keyed : Event → Event
  | .started step => .started step.keyed
  | .waited time => .waited time
  | .called dispatch => .called dispatch

/-- The world with every name in its history replaced by its key. -/
def World.keyed (world : World σ) : World σ :=
  { world with history := world.history.map Event.keyed }

/-- The outcome of a deed with every name in it replaced by its key. -/
def keyedOutcome (outcome : Option RunError × World σ) : Option RunError × World σ :=
  (outcome.1.map RunError.keyed, outcome.2.keyed)

/-- As many calls were made in a keyed world. -/
theorem calls_keyed (world : World σ) : world.keyed.calls = world.calls := by
  rw [World.calls, World.keyed, List.countP_map, World.calls]
  congr 1
  funext event
  cases event <;> rfl

/-- The same was sent in a keyed world, for dispatches hold no names. -/
theorem sent_map_keyed (events : List Event) : sent (events.map Event.keyed) = sent events := by
  rw [sent, List.filterMap_map, sent]
  congr 1
  funext event
  cases event <;> rfl

-----------------------------------------------------------------------------------------
-- Deeds
-----------------------------------------------------------------------------------------

/-- A deed does in a keyed world what another one does, but for the spelling of names. -/
def Deed.Keys (deed keyed : Deed σ) : Prop :=
  ∀ world : World σ, keyed world.keyed = keyedOutcome (deed world)

theorem keys_done : Keys (done : Deed σ) done := fun _ => rfl

/-- Two deeds in a row do in a keyed world what they do, if each one does. -/
theorem Deed.Keys.andThen {first firstKeyed second secondKeyed : Deed σ}
    (firstKeys : first.Keys firstKeyed) (secondKeys : second.Keys secondKeyed)
    : (first.andThen second).Keys (firstKeyed.andThen secondKeyed) := by
  intro world
  rw [Deed.andThen, Deed.andThen, firstKeys world]
  obtain ⟨error?, after⟩ := first world
  cases error? with
  | none => exact secondKeys after
  | some error => rfl

/-- So do any number of deeds in a row, by induction over the items. -/
theorem keys_forEach {α : Type} {deed keyed : α → Deed σ}
    (keys : ∀ item, (deed item).Keys (keyed item)) (items : List α)
    : (forEach deed items).Keys (forEach keyed items) := by
  induction items with
  | nil => exact keys_done
  | cons item rest ih => exact (keys item).andThen ih

/-- Reading the same from the variables, or failing with the same error but for its name. -/
theorem keys_reading {α : Type} {read readKeyed : Environment → Except RunError α}
    {use useKeyed : α → Deed σ}
    (reads
      : ∀ environment, readKeyed environment = (read environment).mapError RunError.keyed)
    (keys : ∀ value, (use value).Keys (useKeyed value))
    : (reading read use).Keys (reading readKeyed useKeyed) := by
  intro world
  have same : world.keyed.environment = world.environment := rfl
  rw [reading, reading, same, reads]
  cases read world.environment with
  | ok value => exact keys value world
  | error error => rfl

/-- Changing the variables in the same way changes a keyed world in this way. -/
theorem keys_change {edit editKeyed : Environment → Environment}
    (same : ∀ environment, editKeyed environment = edit environment)
    : (change edit : Deed σ).Keys (change editKeyed) := by
  intro world
  simp only [change, same]
  rfl

/-- A deed below the shadow of a key does what the deed does below that of the name. -/
theorem Deed.Keys.shadowing {deed keyed : Deed σ} (keys : deed.Keys keyed) (name : String)
    (binding : Variable)
    : (deed.shadowing name binding).Keys (keyed.shadowing (keyOf name) binding) := by
  intro world
  have inner := keys { world with environment := world.environment.shadow name binding }
  simp only [Deed.shadowing, Environment.shadow_keyOf]
  have same
      : ({ world.keyed with environment := world.keyed.environment.shadow name binding } : World σ)
        = ({ world with
            environment := world.environment.shadow name binding } : World σ).keyed := rfl
  rw [same, inner]
  rfl

theorem keys_start (step : Step) : (start step : Deed σ).Keys (start step.keyed) := fun _ => rfl

/-- What is sent does not depend on names. -/
theorem keys_send (backend : InputBackend σ) (id : StepId) (dispatch : Dispatch)
    : (send backend id dispatch).Keys (send backend id dispatch) := by
  intro world
  have same : world.keyed.device = world.device := rfl
  simp only [send, same]
  cases (backend.send dispatch world.device).1 <;> rfl

/-- A run waits alike in a keyed world, for its clock and calls are the same there. -/
theorem keys_wait (controls : Controls) (time : Nat)
    : (wait controls time : Deed σ).Keys (wait controls time) := by
  intro world
  have same : controls.cancelled world.keyed = controls.cancelled world := by
    rw [Controls.cancelled, calls_keyed]
    rfl
  have clock : world.keyed.clock = world.clock := rfl
  rw [wait, wait, same, clock]
  split
  · rfl
  · split <;> rfl

-----------------------------------------------------------------------------------------
-- Reading
-----------------------------------------------------------------------------------------

section
variable (id : StepId) (environment : Environment)

/-- A key is looked up like its name; a failure tells the key in place of the name. -/
theorem lookUp_keyOf (name : String)
    : lookUp id (keyOf name) environment
      = (lookUp id name environment).mapError RunError.keyed := by
  rw [lookUp, Environment.get?_keyOf, lookUp]
  cases environment.get? name <;> rfl

/-- A text is read under a key like under its name. -/
theorem readText_keyOf (name : String)
    : readText id (keyOf name) environment
      = (readText id name environment).mapError RunError.keyed := by
  rw [readText, lookUp_keyOf, readText]
  cases lookUp id name environment with
  | error error => rfl
  | ok binding =>
      cases text : binding.value.asText? <;>
        simp [Except.mapError, bind, Except.bind, text, RunError.keyed]

/-- A list is read under a key like under its name. -/
theorem readList_keyOf (name : String)
    : readList id (keyOf name) environment
      = (readList id name environment).mapError RunError.keyed := by
  rw [readList, lookUp_keyOf, readList]
  cases lookUp id name environment with
  | error error => rfl
  | ok binding =>
      cases items : binding.value.asList? <;>
        simp [Except.mapError, bind, Except.bind, items, RunError.keyed]

/-- The input of a step is its own text, or is read under a key like under its name. -/
theorem readInput_keyOf (text readFrom : String)
    : readInput id text (keyOf readFrom) environment
      = (readInput id text readFrom environment).mapError RunError.keyed := by
  rw [readInput, readText_keyOf, readInput]
  split <;> rfl

/-- A keyed side of a condition has the value of the side. -/
theorem readSide_keyed (side : ConditionSide)
    : readSide id side.keyed environment
      = (readSide id side environment).mapError RunError.keyed := by
  cases side with
  | literal text => rfl
  | «variable» name =>
      rw [ConditionSide.keyed, readSide, lookUp_keyOf, readSide]
      cases lookUp id name environment <;> rfl

/-- A keyed condition holds exactly if the condition does. -/
theorem readCondition_keyed (condition : Condition)
    : readCondition id condition.keyed environment
      = (readCondition id condition environment).mapError RunError.keyed := by
  rw [readCondition, Condition.keyed, readSide_keyed, readSide_keyed, readCondition]
  cases readSide id condition.left environment with
  | error error => rfl
  | ok left => cases readSide id condition.right environment <;> rfl

end

-----------------------------------------------------------------------------------------
-- Running
-----------------------------------------------------------------------------------------

/-- A keyed action does in a keyed world what the action does, case by case. -/
theorem keys_runAction (backend : InputBackend σ) (controls : Controls) (id : StepId)
    (act : Action)
    : (runAction backend controls id act).Keys (runAction backend controls id act.keyed) := by
  cases act with
  | move target => exact keys_send backend id _
  | click button => exact keys_send backend id _
  | pressKeyboard combination => exact keys_send backend id _
  | write text readFrom =>
      exact keys_reading (fun environment => readInput_keyOf id environment text readFrom)
        fun typed => keys_forEach (keys_send backend id) _
  | parseString text readFrom divider saveAs =>
      exact keys_reading (fun environment => readInput_keyOf id environment text readFrom)
        fun _ => keys_change fun environment => environment.set_keyOf ..
  | sleep time => exact keys_wait controls _
  | setVariable saveAs value => exact keys_change fun environment => environment.set_keyOf ..
  | destructVariable readFrom index saveAs =>
      exact keys_reading (fun environment => readList_keyOf id environment readFrom)
        fun _ => keys_change fun environment => environment.set_keyOf ..

/-- Keyed steps do in a keyed world what the steps do, by induction over the nested lists. -/
theorem keys_runSteps (backend : InputBackend σ) (controls : Controls) (steps : List Step)
    : (runSteps backend controls steps).Keys (runSteps backend controls (keyedAll steps)) := by
  have behindWait {step : Step} {rest : List Step}
      (stepKeys : (runStep backend controls step).Keys (runStep backend controls step.keyed))
      (restKeys
        : (runSteps backend controls rest).Keys (runSteps backend controls (keyedAll rest)))
      : (runSteps backend controls (step :: rest)).Keys
          (runSteps backend controls (keyedAll (step :: rest))) := by
    rw [keyedAll, runSteps, runSteps]
    exact (keys_wait controls _).andThen ((keys_start step).andThen (stepKeys.andThen restKeys))
  induction steps using steps_induction with
  | nil =>
      rw [keyedAll, runSteps]
      exact keys_done
  | action id act rest ih =>
      refine behindWait ?_ ih
      rw [Step.keyed_action, runStep, runStep]
      exact keys_runAction backend controls id act
  | statement id stmt body rest bodyIH restIH =>
      refine behindWait ?_ restIH
      cases stmt with
      | cycle iterable saveItemsAs =>
          rw [Step.keyed_statement, Statement.keyed, runStep, runStep]
          exact keys_reading (fun environment => readList_keyOf id environment iterable)
            fun items => keys_forEach (fun _ => bodyIH.shadowing _ _) items
      | conditional condition =>
          rw [Step.keyed_statement, Statement.keyed, runStep, runStep]
          refine keys_reading (fun environment => readCondition_keyed id environment condition)
            fun holds => ?_
          split
          · exact bodyIH
          · exact keys_done

/-- What a run of keyed steps tells is told by the run of the steps. -/
theorem play_keyedAll (backend : InputBackend σ) (controls : Controls) (steps : List Step)
    (device : σ) (environment : Environment)
    : let keyed := play backend controls (keyedAll steps) device environment
      let report := play backend controls steps device environment
      keyed.error? = report.error?.map RunError.keyed ∧ keyed.world = report.world.keyed := by
  intro keyed report
  have outcome := keys_runSteps backend controls steps (.initial device environment)
  exact ⟨congrArg Prod.fst outcome, congrArg Prod.snd outcome⟩

end DesktopAutomation.Run
