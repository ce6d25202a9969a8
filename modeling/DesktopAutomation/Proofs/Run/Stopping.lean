import DesktopAutomation.Proofs.Run.Calls
import DesktopAutomation.Proofs.Run.Faults

/-! Where a run on a virtual screen stops. An error that names a step names the one that was started
last, whatever its depth; and the record of the screen holds all that was sent, but for a last call
that was refused.
-/

namespace DesktopAutomation.Run
open Deed

variable {σ : Type}

-----------------------------------------------------------------------------------------
-- Where runs stop
-----------------------------------------------------------------------------------------

/-- The record of the screen holds all that was sent. -/
def OnRecord (world : World FailingScreen) : Prop :=
  world.device.device.record = sent world.history

/-- In addition, the step was started last. -/
structure Doing (step : Step) (world : World FailingScreen) : Prop where
  record : OnRecord world
  last : lastStarted? world.history.reverse = some step

theorem Doing.pass {step : Step} {world : World FailingScreen} (doing : Doing step world)
    (time : Nat)
    : Doing step (world.pass time) where
  record := doing.record
  last := by simpa [World.pass, lastStarted?, Event.started?] using doing.last

/-- What is left when an error stops a run of steps: if it names a step, one of these steps has its
id and was started last; and what was sent is on record, but for a call that the screen refused.
-/
structure Stopped (steps : List Step) (error : RunError) (world : World FailingScreen) : Prop where
  named
    : ∀ id,
        error.step? = some id
        → ∃ step ∈ listingOf steps,
            step.id = id ∧ lastStarted? world.history.reverse = some step
  record
    : ∃ refused : Option Dispatch,
        sent world.history = refused.toList ++ world.device.device.record
        ∧ (refused.isSome ↔ ∃ id cause, error = .backend id cause)

/-- A cancelled run stops with all calls on record. -/
theorem OnRecord.cancelled {world : World FailingScreen} (recorded : OnRecord world)
    (steps : List Step)
    : Stopped steps .cancelled world where
  named _ names := by simp [RunError.step?] at names
  record := ⟨none, recorded.symm, by simp⟩

theorem names_of_faultAt {id : StepId} {error : RunError} (fault : error.FaultAt id)
    : error.step? = some id ∧ ¬∃ step cause, error = .backend step cause := by
  cases fault <;> simp [RunError.step?]

/-- A variable at fault stops the step that is being done. -/
theorem Doing.fault {step : Step} {world : World FailingScreen} (doing : Doing step world)
    {steps : List Step} (listed : step ∈ listingOf steps) {error : RunError}
    (fault : error.FaultAt step.id)
    : Stopped steps error world where
  named id names := by
    obtain rfl := Option.some.inj ((names_of_faultAt fault).1.symm.trans names)
    exact ⟨step, listed, rfl, doing.last⟩
  record := ⟨none, doing.record.symm, by simpa using (names_of_faultAt fault).2⟩

section
variable {controls : Controls} {steps : List Step} {step : Step}

theorem wait_triple {ready : World FailingScreen → Prop}
    (passes : ∀ world time, ready world → ready (world.pass time))
    (recorded : ∀ world, ready world → OnRecord world) (time : Nat)
    : (wait controls time).Triple ready ready (Stopped steps) := by
  refine .wait time (fun world => passes world time) fun _ world given => ⟨?_, fun cut => ?_⟩
  · exact (recorded world given).cancelled steps
  · exact (recorded _ (passes world cut given)).cancelled steps

theorem enter_triple
    : ((wait controls controls.delay).andThen (start step)).Triple OnRecord (Doing step)
        (Stopped steps) :=
  (wait_triple (fun _ _ => id) (fun _ => id) _).andThen
    (.start step fun _ recorded => ⟨recorded, lastStarted?_started step _⟩)

/-- The screen takes a dispatch on record, or it refuses the dispatch and the step that is being
done stops.
-/
theorem send_triple (listed : step ∈ listingOf steps) (dispatch : Dispatch)
    : (send FailingScreen.backend step.id dispatch).Triple (Doing step) (Doing step)
        (Stopped steps) := by
  rintro world ⟨recorded, last⟩
  have settled (screen : FailingScreen) : screen.settle.device.record = screen.device.record := by
    rw [FailingScreen.settle]
    split <;> rfl
  have still := (lastStarted?_called dispatch world.history).trans last
  simp only [send, FailingScreen.backend, FailingScreen.send, VirtualScreen.send]
  split
  · next error refused =>
      refine ⟨fun ended => by simp at ended, fun other isError => ?_⟩
      obtain rfl := Option.some.inj isError
      refine ⟨fun id names => ?_, some dispatch, ?_, by simp⟩
      · obtain rfl := Option.some.inj names
        exact ⟨step, listed, rfl, still⟩
      · simp only [settled, Option.toList_some, sent_called]
        exact congrArg (dispatch :: ·) recorded.symm
  · refine ⟨fun _ => ⟨?_, still⟩, fun _ isError => by simp at isError⟩
    simp only [OnRecord, settled, sent_called]
    exact congrArg (dispatch :: ·) recorded

theorem runAction_triple {id : StepId} {act : Action} (listed : .action id act ∈ listingOf steps)
    : (runAction FailingScreen.backend controls id act).Triple (Doing (.action id act)) OnRecord
        (Stopped steps) := by
  have sends (dispatch : Dispatch)
      : (send FailingScreen.backend id dispatch).Triple (Doing (.action id act))
          (Doing (.action id act)) (Stopped steps) :=
    send_triple listed dispatch
  have ends {deed : Deed FailingScreen}
      (triple : deed.Triple (Doing (.action id act)) (Doing (.action id act)) (Stopped steps))
      : deed.Triple (Doing (.action id act)) OnRecord (Stopped steps) :=
    triple.weaken (fun _ given => given) (fun _ => Doing.record) fun _ _ stopped => stopped
  have changes (edit : Environment → Environment)
      : (change edit : Deed FailingScreen).Triple (Doing (.action id act)) OnRecord
          (Stopped steps) :=
    .change edit fun _ => Doing.record
  cases act with
  | move target => exact ends (sends _)
  | click button => exact ends (sends _)
  | pressKeyboard combination => exact ends (sends _)
  | write text readFrom =>
      refine .reading (fun _ _ doing fails => doing.fault listed (faultAt_of_readInput fails)) ?_
      exact fun typed => ends (.forEach fun _ _ => sends _)
  | parseString text readFrom divider saveAs =>
      refine .reading (fun _ _ doing fails => doing.fault listed (faultAt_of_readInput fails)) ?_
      exact fun _ => changes _
  | sleep time =>
      exact ends (wait_triple (fun _ _ doing => doing.pass _) (fun _ => Doing.record) _)
  | setVariable saveAs value => exact changes _
  | destructVariable readFrom index saveAs =>
      refine .reading (fun _ _ doing fails => doing.fault listed (faultAt_of_readList fails)) ?_
      exact fun _ => changes _

end

/-- Every run of steps stops at one of them. -/
theorem runSteps_triple (controls : Controls) (steps : List Step)
    : (runSteps FailingScreen.backend controls steps).Triple OnRecord OnRecord
        (Stopped steps) := by
  have rules : StepRules FailingScreen.backend controls (· ∈ listingOf steps) OnRecord Doing
      (Stopped steps) := {
    enter := fun _ _ => enter_triple
    act := fun _ _ listed => runAction_triple listed
    fault := fun _ _ _ _ _ listed doing fault => doing.fault listed fault
    within := fun _ _ _ _ => Doing.record
    idle_changed := fun _ _ recorded => recorded
    stops_changed := fun _ _ _ stopped => ⟨stopped.named, stopped.record⟩
  }
  exact rules.runSteps fun _ listed => listed

end DesktopAutomation.Run
