import DesktopAutomation.Proofs.Run.Faults
import DesktopAutomation.Proofs.Run.Lockstep
import DesktopAutomation.Proofs.Run.Timing
import Mathlib.Algebra.GroupWithZero.Nat

/-! What a run owes to its times: the delay and the sleeps change when things happen, and nothing
else. How long an uncancelled run takes is told by the steps it starts: each is charged the delay,
and a sleep its time in addition.
-/

namespace DesktopAutomation.Run
open Deed

variable {σ : Type}

-----------------------------------------------------------------------------------------
-- What started steps are charged
-----------------------------------------------------------------------------------------

/-- The steps that a run started, in this order. A step is listed as often as it was started. -/
def Report.started (report : Report σ) : List Step := report.events.filterMap Event.started?

/-- The time that is charged for the steps which some events start. -/
def charge (delay : Nat) (events : List Event) : Nat :=
  let started := events.filterMap Event.started?
  delay * started.length + (started.map Step.sleepTime).sum

@[simp] theorem charge_started (delay : Nat) (step : Step) (events : List Event)
    : charge delay (.started step :: events)
      = charge delay events + delay + step.sleepTime := by
  simp only [charge, List.filterMap_cons, Event.started?, List.length_cons, List.map_cons,
    List.sum_cons, Nat.mul_add, Nat.mul_one]
  omega

@[simp] theorem charge_waited (delay time : Nat) (events : List Event)
    : charge delay (.waited time :: events) = charge delay events := rfl

@[simp] theorem charge_called (delay : Nat) (dispatch : Dispatch) (events : List Event)
    : charge delay (.called dispatch :: events) = charge delay events := rfl

theorem charge_reverse (delay : Nat) (events : List Event)
    : charge delay events.reverse = charge delay events := by
  simp only [charge, List.filterMap_reverse, List.length_reverse, List.map_reverse,
    List.sum_reverse]

-----------------------------------------------------------------------------------------
-- The time that a run takes
-----------------------------------------------------------------------------------------

/-- All that is charged has passed, but for some time that is still to sleep. -/
def Charged (delay owed : Nat) (world : World σ) : Prop :=
  world.clock + owed = charge delay world.history

section
variable {delay : Nat} {stops : RunError → World σ → Prop}

/-- A wait passes what is still to sleep. -/
theorem wait_charged (time : Nat)
    : (wait (.steady delay) time : Deed σ).Triple (Charged delay time) (Charged delay 0) stops :=
  .wait time (fun _ charged => charged) fun controlled => absurd rfl controlled

/-- The wait before a step is charged when the step is started; its sleep is still to come then. -/
theorem enter_charged (step : Step)
    : ((wait (.steady delay) delay).andThen (start step) : Deed σ).Triple (Charged delay 0)
        (Charged delay step.sleepTime) stops := by
  intro world charged
  refine ⟨fun _ => ?_, fun error stopped => ?_⟩
  · simp [Deed.andThen, wait_steady, Deed.start, Charged, World.pass] at charged ⊢
    omega
  · simp [Deed.andThen, wait_steady, Deed.start] at stopped

end

section
variable {backend : InputBackend σ} {delay : Nat}

theorem send_charged (id : StepId) (dispatch : Dispatch)
    : (send backend id dispatch).Triple (Charged delay 0) (Charged delay 0)
        fun _ => Charged delay 0 :=
  fun _ charged => ⟨fun _ => charged, fun _ _ => charged⟩

/-- An action sleeps for what was charged for it in addition. -/
theorem runAction_charged (id : StepId) (act : Action)
    : (runAction backend (.steady delay) id act).Triple
        (Charged delay (Step.action id act).sleepTime) (Charged delay 0)
        fun _ => Charged delay 0 := by
  have sends (dispatch : Dispatch)
      : (send backend id dispatch).Triple (Charged delay 0) (Charged delay 0)
          fun _ => Charged delay 0 :=
    send_charged id dispatch
  have changes (edit : Environment → Environment)
      : (change edit : Deed σ).Triple (Charged delay 0) (Charged delay 0)
          fun _ => Charged delay 0 :=
    .change edit fun _ charged => charged
  cases act with
  | move target => exact sends _
  | click button => exact sends _
  | pressKeyboard combination => exact sends _
  | write text readFrom =>
      exact .reading (fun _ _ charged _ => charged) fun typed => .forEach fun _ _ => sends _
  | parseString text readFrom divider saveAs =>
      exact .reading (fun _ _ charged _ => charged) fun _ => changes _
  | sleep time => exact wait_charged _
  | setVariable saveAs value => exact changes _
  | destructVariable readFrom index saveAs =>
      exact .reading (fun _ _ charged _ => charged) fun _ => changes _

end

/-- However an uncancelled run of steps ends, what was charged has passed. -/
theorem runSteps_charged (backend : InputBackend σ) (delay : Nat) (steps : List Step)
    : (runSteps backend (.steady delay) steps).Triple (Charged delay 0) (Charged delay 0)
        fun _ => Charged delay 0 := by
  have rules : StepRules backend (.steady delay) (fun _ => True) (Charged delay 0)
      (fun step => Charged delay step.sleepTime) (fun _ => Charged delay 0) := {
    enter := fun step _ => enter_charged step
    act := fun id act _ => runAction_charged id act
    fault := fun _ _ _ _ _ _ charged _ => charged
    within := fun _ _ _ _ charged => charged
    idle_changed := fun _ _ charged => charged
    stops_changed := fun _ _ _ charged => charged
  }
  exact rules.runSteps fun _ _ => trivial

/-- The clock of an uncancelled run tells the delay for every step that was started, and the times
of all sleeps among these steps.
-/
theorem play_clock (backend : InputBackend σ) (delay : Nat) (steps : List Step) (device : σ)
    (environment : Environment)
    : let report := play backend (.steady delay) steps device environment
      report.world.clock
        = delay * report.started.length + (report.started.map Step.sleepTime).sum := by
  intro report
  have charged : Charged delay 0 report.world := by
    have initially : Charged delay 0 (.initial device environment : World σ) := rfl
    obtain ⟨ended, stopped⟩ := runSteps_charged backend delay steps _ initially
    cases outcome : (runSteps backend (.steady delay) steps (.initial device environment)).1 with
    | none => exact ended outcome
    | some error => exact stopped error outcome
  exact charged.trans (charge_reverse delay report.world.history).symm

/-- The delay and the times of sleeps decide over nothing but time: runs that differ in them only
have the same effect. Each takes the delay for every step that it started, and the times of all
sleeps among these steps, however it ends.
-/
theorem playOn_paced (delay : Nat) (offlineAfter : Option Nat) (steps : List Step)
    (device : VirtualScreen) (environment : Environment)
    : let report := playOn (.steady delay) offlineAfter steps device environment
      (∀ otherDelay others,
        untimedAll others = untimedAll steps
        → let other := playOn (.steady otherDelay) offlineAfter others device environment
          report.SameEffect other ∧ other.dispatches = report.dispatches)
      ∧ report.world.clock
        = delay * report.started.length + (report.started.map Step.sleepTime).sum := by
  intro report
  refine ⟨?_, play_clock ..⟩
  intro otherDelay others same other
  have lockstep : (runSteps FailingScreen.backend (.steady delay) steps).Lockstep Eq
      (runSteps FailingScreen.backend (.steady otherDelay) others) :=
    lockstep_of_untimed same.symm
  have effect : report.SameEffect other := (lockstep _ _ ⟨rfl, rfl, rfl⟩).sameEffect
  exact ⟨effect, congrArg (fun screen => screen.device.dispatches) effect.device⟩

/-- Steps that type the texts of a list behind pauses, and then one that is not there. -/
def pausedTypo (pause : UInt64) : List Step :=
  [.statement ⟨1⟩ (.cycle "lines" "line")
      [.action ⟨2⟩ (.sleep pause), .action ⟨3⟩ (.write "" "line")],
    .action ⟨4⟩ (.write "" "lien")]

theorem playOn_paced_pausedTypo
    : let report := playOn (.steady 10) none (pausedTypo 50) (.blank .standard) twoLines
      let other := playOn (.steady 0) none (pausedTypo 7) (.blank .standard) twoLines
      untimedAll (pausedTypo 7) = untimedAll (pausedTypo 50)
      ∧ report.error? = some (.variableNotFound ⟨4⟩ "lien")
      ∧ report.SameEffect other
      ∧ other.dispatches = report.dispatches
      ∧ report.dispatches = [.text "a", .text "b"]
      ∧ report.started.length = 6
      ∧ report.world.clock = 160 := by
  intro report other
  have paced := playOn_paced 10 none (pausedTypo 50) (.blank .standard) twoLines
  obtain ⟨effect, dispatches⟩ := paced.1 0 (pausedTypo 7) rfl
  exact ⟨rfl, by decide +kernel, effect, dispatches, by decide +kernel, by decide +kernel,
    by decide +kernel⟩

end DesktopAutomation.Run
