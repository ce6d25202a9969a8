import DesktopAutomation.Backend.Virtual
import DesktopAutomation.Environment

/-!
What a run is made of: the state of the world around it, and deeds that change this world and may
stop the run. Time passes only while a run waits; a wait is also where a cancelled run stops.
-/

namespace DesktopAutomation.Run

/-- Something that happens in a run: a step is started, the run waits for some time, or it makes an
input call, which may fail.
-/
inductive Event
  | started (step : Step)
  | waited (time : Nat)
  | called (dispatch : Dispatch)
deriving DecidableEq

/-- The event is an input call. -/
def Event.isCall : Event → Bool
  | .called _ => true
  | _ => false

/-- The world of a run: the device it sends input to, the variables, the time since its start in
milliseconds, and all that happened so far, the last first.
-/
structure World (σ : Type) where
  device : σ
  environment : Environment
  clock : Nat
  history : List Event

namespace World
variable {σ : Type}

/-- The world before a run. -/
def initial (device : σ) (environment : Environment) : World σ := ⟨device, environment, 0, []⟩

/-- The number of input calls so far. -/
def calls (world : World σ) : Nat := world.history.countP Event.isCall

/-- Some time passes. -/
def pass (world : World σ) (time : Nat) : World σ :=
  { world with clock := world.clock + time, history := .waited time :: world.history }

end World

/-- How a run is controlled: the wait before every step, in milliseconds, and what cancels it: a
time, or a number of input calls.

These are all the ways to cancel a run. It shares one thread with whoever cancels it, so it can be
cancelled only before it starts or where it is suspended, and it is suspended only within an input
call and within a wait of some length, be this the wait before a step or that of a sleep; a wait of
no length does not suspend it. A moment within a wait is told by its time. A moment within a call is
told by the number of calls up to this one: what cancels the run there is seen at the next wait.
-/
structure Controls where
  delay : Nat
  cancelAt : Option Nat
  cancelAfter : Option Nat
deriving DecidableEq, Repr

/-- Nothing cancels the run. -/
def Controls.steady (delay : Nat) : Controls := ⟨delay, none, none⟩

/-- The run is cancelled. -/
def Controls.cancelled {σ : Type} (controls : Controls) (world : World σ) : Bool :=
  controls.cancelAt.any (· ≤ world.clock) || controls.cancelAfter.any (· ≤ world.calls)

/-- Something to do in a world. It may stop the run with an error. -/
abbrev Deed (σ : Type) := World σ → Option RunError × World σ

namespace Deed
variable {σ : Type}

/-- Does nothing. -/
def done : Deed σ := fun world => (none, world)

/-- Stops the run. -/
def stop (error : RunError) : Deed σ := fun world => (some error, world)

/-- Does one thing and then another, unless the first stops the run. -/
def andThen (first second : Deed σ) : Deed σ := fun world =>
  match first world with
  | (none, after) => second after
  | stopped => stopped

/-- Does one thing for each item of a list. -/
def forEach {α : Type} (deed : α → Deed σ) : List α → Deed σ
  | [] => done
  | item :: rest => (deed item).andThen (forEach deed rest)

/-- Reads something from the variables, and goes on with it or stops. -/
def reading {α : Type} (read : Environment → Except RunError α) (use : α → Deed σ) : Deed σ :=
  fun world =>
    match read world.environment with
    | .ok value => use value world
    | .error error => (some error, world)

/-- Changes the variables. -/
def change (edit : Environment → Environment) : Deed σ := fun world =>
  (none, { world with environment := edit world.environment })

/-- Does something while a name is shadowed. -/
def shadowing (name : String) (binding : Variable) (deed : Deed σ) : Deed σ := fun world =>
  let (stopped?, after) :=
    deed { world with environment := world.environment.shadow name binding }
  (stopped?, { after with environment := after.environment.unshadow })

/-- Notes that a step is started. -/
def start (step : Step) : Deed σ := fun world =>
  (none, { world with history := .started step :: world.history })

/-- Sends input for a step. -/
def send (backend : InputBackend σ) (id : StepId) (dispatch : Dispatch) : Deed σ := fun world =>
  let (error?, device) := backend.send dispatch world.device
  (error?.map (.backend id),
    { world with device := device, history := .called dispatch :: world.history })

/-- Waits for a time. A run that is cancelled does not start to wait, and a wait is cut short at the
time that cancels it.
-/
def wait (controls : Controls) (time : Nat) : Deed σ := fun world =>
  if controls.cancelled world then (some .cancelled, world)
  else
    match controls.cancelAt.filter (· < world.clock + time) with
    | some cut => (some .cancelled, world.pass (cut - world.clock))
    | none => (none, world.pass time)

end Deed

end DesktopAutomation.Run
