import DesktopAutomation.Proofs.Backend.Virtual
import DesktopAutomation.Proofs.Run.Relation
import DesktopAutomation.Proofs.Run.Triple

/-! Why runs stop. A screen takes every dispatch that stays on it, unless it is offline; so a run
whose moves all stay on the screen stops for a variable, because it is cancelled, or on an offline
screen.
-/

namespace DesktopAutomation

/-- The run stopped because a variable is missing or holds a value of another shape. -/
inductive RunError.OfVariable : RunError → Prop
  | notFound (step : StepId) (name : String) : OfVariable (.variableNotFound step name)
  | type (step : StepId) (name expected found : String)
    : OfVariable (.variableType step name expected found)

/-- The run stopped in a step because a variable is missing or holds a value of another shape. -/
inductive RunError.FaultAt (id : StepId) : RunError → Prop
  | notFound (name : String) : FaultAt id (.variableNotFound id name)
  | type (name expected found : String) : FaultAt id (.variableType id name expected found)

/-- A fault at a step is one of a variable. -/
theorem RunError.FaultAt.ofVariable {id : StepId} {error : RunError} (fault : error.FaultAt id)
    : error.OfVariable := by
  cases fault with
  | notFound name => exact .notFound id name
  | type name expected found => exact .type id name expected found

-----------------------------------------------------------------------------------------
-- Screens
-----------------------------------------------------------------------------------------

/-- If a dispatch moves the pointer, it does so on the screen. -/
def Dispatch.StaysOn (screen : Screen) (dispatch : Dispatch) : Prop :=
  ∀ target, dispatch = .move target → screen.contains target = true

/-- A dispatch that stays on the screen is refused by an offline screen only. -/
theorem VirtualScreen.offline_of_send {dispatch : Dispatch} {device : VirtualScreen}
    {error : BackendError} (stays : dispatch.StaysOn device.screen)
    (fails : (device.send dispatch).1 = some error)
    : error = .offline ∧ device.offline = true := by
  have refused : device.refusal? dispatch = some error := by
    rw [send] at fails
    split at fails
    · next refusal => rw [refusal, ← fails]
    · simp at fails
  by_cases isOffline : device.offline = true
  · simp only [refusal?, isOffline, if_true, Option.some.injEq] at refused
    exact ⟨refused.symm, isOffline⟩
  · cases dispatch with
    | move target => simp [refusal?, isOffline, stays target rfl] at refused
    | click | text | keys => simp [refusal?, isOffline] at refused

namespace FailingScreen

/-- A screen that is offline stays so. -/
theorem settle_offline {screen : FailingScreen} (isOffline : screen.device.offline = true)
    : screen.settle.device.offline = true := by
  rw [settle]
  split
  · rfl
  · exact isOffline

/-- The screen is online, and no number of calls takes it offline. -/
structure Lasting (screen : FailingScreen) : Prop where
  online : screen.device.offline = false
  unlimited : screen.callsLeft = none

/-- A screen without a limit does not go offline as it settles. -/
theorem Lasting.settle {screen : FailingScreen} (lasting : screen.Lasting)
    : screen.settle.Lasting := by
  rw [FailingScreen.settle, if_neg (by simp [lasting.unlimited])]
  exact lasting

/-- A screen without a limit is online behind every call. -/
theorem Lasting.send {screen : FailingScreen} (lasting : screen.Lasting) (dispatch : Dispatch)
    : (screen.send dispatch).2.Lasting := by
  apply Lasting.settle
  constructor
  · exact (VirtualScreen.send_offline ..).trans lasting.online
  · exact congrArg (Option.map (· - 1)) lasting.unlimited

end FailingScreen

namespace Run
open Deed

variable {σ : Type}

-----------------------------------------------------------------------------------------
-- Deeds
-----------------------------------------------------------------------------------------

/-- From every device that is ready, a deed leads to one that is. If it stops the run, it does so
for a reason that may stop a run on the device behind it.
-/
def Deed.Safe (ready : σ → Prop) (reason : σ → RunError → Prop) (deed : Deed σ) : Prop :=
  ∀ world,
    ready world.device
    → ready (deed world).2.device
      ∧ ∀ error, (deed world).1 = some error → reason (deed world).2.device error

/-- Reasons that may stop a run on any device: a variable, or a cancellation if the run is
controlled by one.
-/
structure Reasons (controls : Controls) (reason : σ → RunError → Prop) : Prop where
  ofVariable : ∀ {device error}, RunError.OfVariable error → reason device error
  cancelled : ∀ device, controls ≠ .steady controls.delay → reason device .cancelled

/-- A fault at a step is always a reason to stop. -/
theorem Reasons.ofFault {controls : Controls} {reason : σ → RunError → Prop}
    (reasons : Reasons controls reason) {id : StepId} {device : σ} {error : RunError}
    (fault : error.FaultAt id)
    : reason device error :=
  reasons.ofVariable fault.ofVariable

/-- Safety is a triple: the same is known before and behind, and a reason if the run stops. -/
theorem Deed.safe_iff_triple {ready : σ → Prop} {reason : σ → RunError → Prop} {deed : Deed σ}
    : deed.Safe ready reason
      ↔ deed.Triple (fun world => ready world.device) (fun world => ready world.device)
          (fun error world => ready world.device ∧ reason world.device error) := by
  refine forall₂_congr fun world _ => ?_
  cases stopped? : (deed world).1 with
  | none => simp
  | some error => simp

-----------------------------------------------------------------------------------------
-- Reading
-----------------------------------------------------------------------------------------

/-- Looking up a variable fails only because it is missing. -/
theorem faultAt_of_lookUp {id : StepId} {name : String} {environment : Environment}
    {error : RunError} (fails : lookUp id name environment = .error error)
    : error.FaultAt id := by
  rw [lookUp] at fails
  split at fails
  · simp at fails
  · obtain rfl := Except.error.inj fails
    exact .notFound ..

/-- Two readings in a row fail with the first of them, or with the second. -/
theorem error_of_bind {α β : Type} {first : Except RunError α} {second : α → Except RunError β}
    {error : RunError} (fails : (first >>= second) = .error error)
    : first = .error error ∨ ∃ value, second value = .error error := by
  cases first with
  | error cause =>
      obtain rfl : cause = error := Except.error.inj fails
      exact .inl rfl
  | ok value => exact .inr ⟨value, fails⟩

/-- Reading a text fails only for the variable it is read from. -/
theorem faultAt_of_readText {id : StepId} {name : String} {environment : Environment}
    {error : RunError} (fails : readText id name environment = .error error)
    : error.FaultAt id := by
  rcases error_of_bind fails with missing | ⟨binding, otherShape⟩
  · exact faultAt_of_lookUp missing
  · split at otherShape
    · simp at otherShape
    · obtain rfl := Except.error.inj otherShape
      exact .type ..

/-- Reading a list fails only for the variable it is read from. -/
theorem faultAt_of_readList {id : StepId} {name : String} {environment : Environment}
    {error : RunError} (fails : readList id name environment = .error error)
    : error.FaultAt id := by
  rcases error_of_bind fails with missing | ⟨binding, otherShape⟩
  · exact faultAt_of_lookUp missing
  · split at otherShape
    · simp at otherShape
    · obtain rfl := Except.error.inj otherShape
      exact .type ..

/-- The input of a step fails only for the variable it is read from. -/
theorem faultAt_of_readInput {id : StepId} {text readFrom : String}
    {environment : Environment} {error : RunError}
    (fails : readInput id text readFrom environment = .error error)
    : error.FaultAt id := by
  rw [readInput] at fails
  split at fails
  · exact faultAt_of_readText fails
  · simp at fails

/-- The value of a side fails only for the variable it is read from. -/
theorem faultAt_of_readSide {id : StepId} {side : ConditionSide} {environment : Environment}
    {error : RunError} (fails : readSide id side environment = .error error)
    : error.FaultAt id := by
  rcases side with text | name
  · simp [readSide] at fails
  · rw [readSide] at fails
    cases found : lookUp id name environment with
    | error missing =>
        rw [found] at fails
        obtain rfl := Except.error.inj fails
        exact faultAt_of_lookUp found
    | ok binding => simp [found, Except.map] at fails

/-- A condition fails only for a variable of one of its sides. -/
theorem faultAt_of_readCondition {id : StepId} {condition : Condition}
    {environment : Environment} {error : RunError}
    (fails : readCondition id condition environment = .error error)
    : error.FaultAt id := by
  rcases error_of_bind fails with left | ⟨leftValue, fails⟩
  · exact faultAt_of_readSide left
  · rcases error_of_bind fails with right | ⟨rightValue, holds⟩
    · exact faultAt_of_readSide right
    · simp [pure, Except.pure] at holds

-----------------------------------------------------------------------------------------
-- Rules for steps
-----------------------------------------------------------------------------------------

/-- What is known between two steps and while one is being done, for the steps that a run may come
to: an entered step is being done, an action ends or stops the run, and a variable at fault stops it
at a statement. What is known does not depend on variables.
-/
structure StepRules (backend : InputBackend σ) (controls : Controls) (listed : Step → Prop)
    (idle : World σ → Prop) (doing : Step → World σ → Prop)
    (stops : RunError → World σ → Prop)
    : Prop where
  enter
    : ∀ step,
        listed step
        → ((wait controls controls.delay).andThen (start step)).Triple idle (doing step) stops
  act
    : ∀ id act,
        listed (.action id act)
        → (runAction backend controls id act).Triple (doing (.action id act)) idle stops
  fault
    : ∀ id stmt body error world,
        listed (.statement id stmt body)
        → doing (.statement id stmt body) world
        → error.FaultAt id
        → stops error world
  within : ∀ id stmt body world, doing (.statement id stmt body) world → idle world
  idle_changed : ∀ world environment, idle world → idle { world with environment }
  stops_changed
    : ∀ error world environment, stops error world → stops error { world with environment }

/-- What the rules for steps tell of single steps they tell of runs, by induction over the nested
steps. What is known behind the steps before does not matter: a step is entered before it is done.
-/
theorem StepRules.runSteps {backend : InputBackend σ} {controls : Controls}
    {listed : Step → Prop} {idle : World σ → Prop} {doing : Step → World σ → Prop}
    {stops : RunError → World σ → Prop}
    (rules : StepRules backend controls listed idle doing stops) {steps : List Step}
    (all : ∀ step ∈ listingOf steps, listed step)
    : (runSteps backend controls steps).Triple idle idle stops := by
  have behindStart {step : Step} {rest : List Step} (isListed : listed step)
      (stepTriple : (runStep backend controls step).Triple (doing step) idle stops)
      (restTriple : (Run.runSteps backend controls rest).Triple idle idle stops)
      : (Run.runSteps backend controls (step :: rest)).Triple idle idle stops := by
    rw [Run.runSteps, ← andThen_assoc]
    exact (rules.enter step isListed).andThen (stepTriple.andThen restTriple)
  induction steps using steps_induction with
  | nil =>
      rw [Run.runSteps]
      exact .done
  | action id act rest ih =>
      rw [listingOf_action] at all
      obtain ⟨isListed, behind⟩ := List.forall_mem_cons.mp all
      refine behindStart isListed ?_ (ih behind)
      rw [runStep]
      exact rules.act id act isListed
  | statement id stmt body rest bodyIH restIH =>
      rw [listingOf_statement] at all
      obtain ⟨isListed, nested⟩ := List.forall_mem_cons.mp all
      obtain ⟨inBody, inRest⟩ := List.forall_mem_append.mp nested
      have bodyTriple := bodyIH inBody
      have within := rules.within id stmt body
      refine behindStart isListed ?_ (restIH inRest)
      cases stmt with
      | cycle iterable saveItemsAs =>
          rw [runStep]
          refine .reading (fun world error doing fails => ?_) fun items => .strengthen ?_ within
          · exact rules.fault id _ body error world isListed doing (faultAt_of_readList fails)
          · exact .forEach fun _ _ => bodyTriple.shadowing _ _ rules.idle_changed
              rules.idle_changed rules.stops_changed
      | conditional condition =>
          rw [runStep]
          refine .reading (fun world error doing fails => ?_) fun holds => .strengthen ?_ within
          · exact rules.fault id _ body error world isListed doing (faultAt_of_readCondition fails)
          · split
            · exact bodyTriple
            · exact .done

-----------------------------------------------------------------------------------------
-- Steps
-----------------------------------------------------------------------------------------

section
variable {ready : σ → Prop} {reason : σ → RunError → Prop} {backend : InputBackend σ}
  {controls : Controls} {screen : Screen}

/-- Typing a text moves no pointer. -/
theorem typing_staysOn (screen : Screen) (text : String)
    : ∀ dispatch ∈ typing text, dispatch.StaysOn screen := by
  have line (text : String) : ∀ dispatch ∈ typeLine text, dispatch.StaysOn screen := by
    intro dispatch member target moves
    subst moves
    rw [typeLine] at member
    split at member <;> simp at member
  intro dispatch member
  rw [typing] at member
  split at member
  · simp at member
  · simp only [List.mem_append, List.mem_flatMap, List.mem_cons] at member
    rcases member with inFirst | ⟨other, _, rfl | inOther⟩
    · exact line _ dispatch inFirst
    · intro target moves
      simp at moves
    · exact line _ dispatch inOther

/-- A wait stops a run only if the run is cancelled. -/
theorem wait_safe (reasons : Reasons controls reason) (time : Nat)
    : (wait controls time : Deed σ).Safe ready reason := by
  rw [safe_iff_triple]
  refine .wait time (fun _ isReady => isReady) fun cancels world isReady => ?_
  have stopped := reasons.cancelled world.device cancels
  exact ⟨⟨isReady, stopped⟩, fun _ => ⟨isReady, stopped⟩⟩

/-- An action whose move stays on the screen is safe if sending what stays on it is, case by case.
-/
theorem runAction_safe (reasons : Reasons controls reason)
    (sends
      : ∀ id dispatch, dispatch.StaysOn screen → (send backend id dispatch).Safe ready reason)
    (id : StepId) {act : Action}
    (stays : ∀ target, act = .move target → screen.contains target = true)
    : (runAction backend controls id act).Safe ready reason := by
  have waits (time : Nat) : (wait controls time).Safe ready reason := wait_safe reasons time
  simp only [safe_iff_triple] at sends waits ⊢
  cases act with
  | move target =>
      refine sends id _ fun other moves => ?_
      obtain rfl := Dispatch.move.inj moves
      exact stays target rfl
  | click button => exact sends id _ fun _ moves => by simp at moves
  | pressKeyboard combination => exact sends id _ fun _ moves => by simp at moves
  | write text readFrom =>
      refine .reading (fun _ _ isReady fails => ⟨isReady, ?_⟩) fun typed => ?_
      · exact reasons.ofFault (faultAt_of_readInput fails)
      · exact .forEach fun dispatch member => sends id dispatch (typing_staysOn _ _ dispatch member)
  | parseString text readFrom divider saveAs =>
      refine .reading (fun _ _ isReady fails => ⟨isReady, ?_⟩) fun _ => ?_
      · exact reasons.ofFault (faultAt_of_readInput fails)
      · exact .change _ fun _ isReady => isReady
  | sleep time => exact waits _
  | setVariable saveAs value =>
      rw [runAction]
      exact .change _ fun _ isReady => isReady
  | destructVariable readFrom index saveAs =>
      refine .reading (fun _ _ isReady fails => ⟨isReady, ?_⟩) fun _ => ?_
      · exact reasons.ofFault (faultAt_of_readList fails)
      · exact .change _ fun _ isReady => isReady

/-- If sending is safe for dispatches that stay on the screen, so is every run of steps that do. -/
theorem runSteps_safe (reasons : Reasons controls reason)
    (sends
      : ∀ id dispatch, dispatch.StaysOn screen → (send backend id dispatch).Safe ready reason)
    {steps : List Step}
    (stays
      : ∀ step ∈ listingOf steps, ∀ target,
          step.target? = some target → screen.contains target = true)
    : (runSteps backend controls steps).Safe ready reason := by
  have waits : (wait controls controls.delay).Safe ready reason := wait_safe reasons _
  rw [safe_iff_triple] at waits ⊢
  have rules : StepRules backend controls
      (fun step => ∀ target, step.target? = some target → screen.contains target = true)
      (fun world => ready world.device) (fun _ world => ready world.device)
      (fun error world => ready world.device ∧ reason world.device error) := {
    enter := fun step _ => waits.andThen (.start step fun _ isReady => isReady)
    act := fun id act own => safe_iff_triple.mp <|
      runAction_safe reasons sends id fun target moves => own target (by rw [moves]; rfl)
    fault := fun _ _ _ _ _ _ isReady fault => ⟨isReady, reasons.ofFault fault⟩
    within := fun _ _ _ _ isReady => isReady
    idle_changed := fun _ _ isReady => isReady
    stops_changed := fun _ _ _ stopped => stopped
  }
  exact rules.runSteps stays

end

-----------------------------------------------------------------------------------------
-- Runs on virtual screens
-----------------------------------------------------------------------------------------

/-- What may stop a run on a virtual screen whose moves stay on it. -/
inductive MayStop (controls : Controls) (device : FailingScreen) : RunError → Prop
  | ofVariable {error} (fault : RunError.OfVariable error) : MayStop controls device error
  | cancelled (cancels : controls ≠ .steady controls.delay) : MayStop controls device .cancelled
  | offline (id : StepId) (isOffline : device.device.offline = true)
    : MayStop controls device (.backend id .offline)

/-- A failing screen is safe for dispatches that stay on it, whether or not it is known to last. -/
theorem send_safe (controls : Controls) (screen : Screen) (lasts : Prop) (id : StepId)
    {dispatch : Dispatch} (stays : dispatch.StaysOn screen)
    : (send FailingScreen.backend id dispatch).Safe
        (fun device => device.device.screen = screen ∧ (lasts → device.Lasting))
        (MayStop controls) := by
  rintro world ⟨rfl, lasting⟩
  have size := (world.device.reaches_send dispatch).screen
  refine ⟨⟨size, fun always => (lasting always).send dispatch⟩, ?_⟩
  intro error stops
  obtain ⟨cause, fails, rfl⟩ := Option.map_eq_some_iff.mp stops
  obtain ⟨rfl, isOffline⟩ := VirtualScreen.offline_of_send stays fails
  apply MayStop.offline
  apply FailingScreen.settle_offline
  exact (VirtualScreen.send_offline ..).trans isOffline

/-- A run whose moves stay on the screen stops for a variable, because it is cancelled, or on a
screen that is offline at its end; a screen that lasts is not.
-/
theorem playOn_mayStop (controls : Controls) (offlineAfter : Option Nat) {steps : List Step}
    {device : VirtualScreen} (environment : Environment)
    (stays
      : ∀ step ∈ listingOf steps, ∀ target,
          step.target? = some target → device.screen.contains target = true)
    : let report := playOn controls offlineAfter steps device environment
      (∀ error, report.error? = some error → MayStop controls report.world.device error)
      ∧ (device.offline = false → offlineAfter = none
          → report.world.device.device.offline = false) := by
  have reasons : Reasons controls (MayStop controls) :=
    ⟨.ofVariable, fun _ cancels => .cancelled cancels⟩
  let lasts := device.offline = false ∧ offlineAfter = none
  have lasting (always : lasts) : (FailingScreen.settle ⟨device, offlineAfter⟩).Lasting :=
    FailingScreen.Lasting.settle ⟨always.1, always.2⟩
  have safe := runSteps_safe reasons (send_safe controls device.screen lasts) stays
    (.initial (FailingScreen.settle ⟨device, offlineAfter⟩) environment)
    ⟨(FailingScreen.reaches_settle _).screen, lasting⟩
  obtain ⟨⟨-, stillLasting⟩, stops⟩ := safe
  exact ⟨stops, fun online unlimited => (stillLasting ⟨online, unlimited⟩).online⟩

end Run

end DesktopAutomation
