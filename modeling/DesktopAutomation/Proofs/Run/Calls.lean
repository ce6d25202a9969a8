import DesktopAutomation.Proofs.Run.Interruption
import DesktopAutomation.Proofs.Run.Passage

/-! What the events of a run tell about time and input, and how a run on a virtual screen is told for
a screen that may fail. As long as nothing fails, the record of the screen is what the calls sent.
-/

namespace DesktopAutomation.Run

variable {σ : Type}

-----------------------------------------------------------------------------------------
-- Events
-----------------------------------------------------------------------------------------

/-- What an event sends, if it is a call. -/
def Event.dispatch? : Event → Option Dispatch
  | .called dispatch => some dispatch
  | _ => none

/-- What some events send. -/
def sent (events : List Event) : List Dispatch := events.filterMap Event.dispatch?

@[simp] theorem sent_started (step : Step) (events : List Event)
    : sent (.started step :: events) = sent events := rfl

@[simp] theorem sent_waited (time : Nat) (events : List Event)
    : sent (.waited time :: events) = sent events := rfl

@[simp] theorem sent_called (dispatch : Dispatch) (events : List Event)
    : sent (.called dispatch :: events) = dispatch :: sent events := rfl

/-- The time that passes in an event. -/
def Event.time : Event → Nat
  | .waited time => time
  | _ => 0

/-- The time that passes in some events. -/
def elapsed : List Event → Nat
  | [] => 0
  | event :: later => event.time + elapsed later

/-- The events behind the call with a number, the first of which comes first; all events behind call
number zero, and none if there are fewer calls.
-/
def behindCall : Nat → List Event → List Event
  | 0, events => events
  | _ + 1, [] => []
  | count + 1, event :: rest => behindCall (if event.isCall then count else count + 1) rest

/-- The times at which the waits among some events end, the first of which begins at a time. -/
def waitEnds (clock : Nat) : List Event → List Nat
  | [] => []
  | .waited time :: rest => (clock + time) :: waitEnds (clock + time) rest
  | .started _ :: rest | .called _ :: rest => waitEnds clock rest

/-- The events of a run, the first first. -/
def Report.events (report : Report σ) : List Event := report.world.history.reverse

/-- What was sent in a run. -/
def Report.dispatches (report : Report FailingScreen) : List Dispatch :=
  report.world.device.device.dispatches

theorem behindCall_nil (count : Nat) : behindCall count [] = [] := by cases count <;> rfl

/-- An event is behind a call exactly if the events before it hold that call. -/
theorem behindCall_concat (count : Nat) (events : List Event) (event : Event)
    : behindCall count (events ++ [event])
      = behindCall count events
        ++ if count ≤ events.countP Event.isCall then [event] else [] := by
  induction events generalizing count with
  | nil => cases count <;> simp [behindCall, behindCall_nil]
  | cons first rest ih =>
      cases count with
      | zero => simp [behindCall]
      | succ count =>
          rw [List.cons_append, behindCall, behindCall, ih, List.countP_cons]
          cases first.isCall <;> simp

/-- The time that passes in two parts of a run adds up. -/
@[simp]
theorem elapsed_append (before later : List Event)
    : elapsed (before ++ later) = elapsed before + elapsed later := by
  induction before with
  | nil => simp [elapsed]
  | cons first rest ih => rw [List.cons_append, elapsed, elapsed, ih, Nat.add_assoc]

/-- Calls take no time. -/
theorem elapsed_calls {events : List Event} (calls : ∀ event ∈ events, event.isCall = true)
    : elapsed events = 0 := by
  induction events with
  | nil => rfl
  | cons event rest ih =>
      obtain ⟨isCall, behind⟩ := List.forall_mem_cons.mp calls
      have timeless : event.time = 0 := by cases event <;> simp_all [Event.isCall, Event.time]
      rw [elapsed, timeless, ih behind]

/-- All is behind a call that follows events which hold this call. -/
theorem behindCall_append {count : Nat} {events : List Event}
    (reached : count ≤ events.countP Event.isCall) (more : List Event)
    : behindCall count (events ++ more) = behindCall count events ++ more := by
  induction events generalizing count with
  | nil =>
      obtain rfl := Nat.le_zero.mp reached
      rw [behindCall, behindCall]
  | cons first rest ih =>
      cases count with
      | zero => rfl
      | succ count =>
          rw [List.countP_cons] at reached
          rw [List.cons_append, behindCall, behindCall, ih]
          cases isCall : first.isCall <;> simp_all

/-- A wait ends when the time of all events up to it has passed. -/
theorem mem_waitEnds (clock : Nat) (before : List Event) (time : Nat) (later : List Event)
    : clock + elapsed before + time ∈ waitEnds clock (before ++ .waited time :: later) := by
  induction before generalizing clock with
  | nil => simp [waitEnds, elapsed]
  | cons event rest ih =>
      cases event with
      | started step => simpa [waitEnds, elapsed, Event.time] using ih clock
      | called dispatch => simpa [waitEnds, elapsed, Event.time] using ih clock
      | waited first =>
          have inner := ih (clock + first)
          rw [Nat.add_assoc clock] at inner
          exact List.mem_cons_of_mem _ inner

/-- Every call sends one dispatch, so there are as many of both. -/
theorem countP_isCall (events : List Event)
    : events.countP Event.isCall = (sent events).length := by
  induction events with
  | nil => rfl
  | cons event rest ih => cases event <;> simp [List.countP_cons, Event.isCall, ih]

/-- The clock tells the time that has passed in all events. -/
theorem clock_eq_elapsed (backend : InputBackend σ) (controls : Controls) (steps : List Step)
    (device : σ) (environment : Environment)
    : let report := play backend controls steps device environment
      report.world.clock = elapsed report.events := by
  have relation
      : Relation backend fun before after : World σ =>
          before.clock = elapsed before.history.reverse
          → after.clock = elapsed after.history.reverse := {
    refl := fun _ same => same
    trans := fun earlier later same => later (earlier same)
    started := fun _ _ same => by simpa [elapsed, Event.time] using same
    waited := fun _ _ same => by simpa [World.pass, elapsed, Event.time] using same
    called := fun _ _ same => by simpa [elapsed, Event.time] using same
    set := fun _ _ _ same => same
    shadowed := fun _ _ _ _ inner same => inner same
  }
  exact relation.runSteps controls steps (.initial device environment) rfl

-----------------------------------------------------------------------------------------
-- Demands that nothing interrupts
-----------------------------------------------------------------------------------------

/-- Nothing cuts a wait short if nothing cancels the run. -/
theorem wait_steady (delay time : Nat) (world : World σ)
    : Deed.wait (.steady delay) time world = (none, world.pass time) := rfl

/-- Without a cancellation, a step is entered behind the delay, and noted. -/
theorem enter_steady (backend : InputBackend σ) (delay : Nat) (step : Step) (world : World σ)
    : (Demand.enter step).deed backend (.steady delay) world
      = (none, { world.pass delay with history := .started step :: (world.pass delay).history }) :=
  rfl

/-- A demand whose wait is not cut is met as if nothing cancelled the run. -/
theorem Demand.deed_of_wait (backend : InputBackend σ) {controls : Controls} {demand : Demand}
    {world : World σ}
    (passes
      : ∀ length,
          demand.length? controls.delay = some length
          → Deed.wait controls length world = (none, world.pass length))
    : demand.deed backend controls world
      = demand.deed backend (.steady controls.delay) world := by
  cases demand with
  | enter step => rw [Demand.deed, Deed.andThen, passes controls.delay rfl, enter_steady]; rfl
  | sleep time => exact passes time rfl
  | send id dispatch => rfl

/-- A demand whose wait is cut ends as this wait. -/
theorem Demand.deed_of_cut (backend : InputBackend σ) {controls : Controls} {demand : Demand}
    {world after : World σ} {length : Nat} {error : RunError}
    (waits : demand.length? controls.delay = some length)
    (cut : Deed.wait controls length world = (some error, after))
    : demand.deed backend controls world = (some error, after) := by
  cases demand with
  | enter step =>
      obtain rfl := Option.some.inj waits
      rw [Demand.deed, Deed.andThen, cut]
  | sleep time =>
      obtain rfl := Option.some.inj waits
      exact cut
  | send id dispatch => simp [Demand.length?] at waits

/-- Meeting a demand only adds to the history. -/
theorem history_passage (backend : InputBackend σ) (delay : Nat)
    : Passage backend (.steady delay)
        fun before after : World σ => before.history <:+ after.history where
  refl _ := List.suffix_rfl
  trans := List.IsSuffix.trans
  changed _ _ := List.suffix_rfl
  asked demand world := by
    cases demand with
    | enter step => exact List.suffix_append [.started step, .waited delay] world.history
    | sleep time => exact List.suffix_append [.waited time] world.history
    | send id dispatch => exact List.suffix_append [.called dispatch] world.history

-----------------------------------------------------------------------------------------
-- Runs on virtual screens
-----------------------------------------------------------------------------------------

/-- The screen is online, and its record is what the calls have sent. -/
structure Recorded (world : World VirtualScreen) : Prop where
  online : world.device.offline = false
  record : world.device.record = sent world.history

/-- Nothing is on record but what was sent, and all of it but for a last call that failed. -/
def Accounted (world : World VirtualScreen) : Prop :=
  world.device.record <:+ sent world.history

/-- On a screen that stayed online, every call was recorded. -/
theorem Recorded.length {world : World VirtualScreen} (recorded : Recorded world)
    : world.device.dispatches.length = world.calls := by
  rw [VirtualScreen.dispatches, List.length_reverse, recorded.record, World.calls, countP_isCall]

/-- No more is recorded than was called. -/
theorem Accounted.length_le {world : World VirtualScreen} (accounted : Accounted world)
    : world.device.dispatches.length ≤ world.calls := by
  rw [VirtualScreen.dispatches, List.length_reverse, World.calls, countP_isCall]
  exact List.IsSuffix.length_le accounted

/-- What is recorded in full is accounted for. -/
theorem Recorded.accounted {world : World VirtualScreen} (recorded : Recorded world)
    : Accounted world := by
  simp only [Accounted, recorded.record, List.suffix_rfl]

/-- What was sent stands among the events in their order. -/
theorem Accounted.dispatches {world : World VirtualScreen} (accounted : Accounted world)
    : world.device.dispatches <+: sent world.history.reverse := by
  rw [VirtualScreen.dispatches, sent, List.filterMap_reverse]
  exact List.reverse_prefix.mpr accounted

theorem recorded_initial (screen : Screen) (environment : Environment)
    : Recorded (.initial (.blank screen) environment) := ⟨rfl, rfl⟩

/-- Every demand leaves the calls on record, but for one that fails. -/
theorem Recorded.deed {world : World VirtualScreen} (recorded : Recorded world) (delay : Nat)
    (demand : Demand)
    : let outcome := demand.deed VirtualScreen.backend (.steady delay) world
      Accounted outcome.2 ∧ (outcome.1 = none → Recorded outcome.2) := by
  cases demand with
  | enter step =>
      have kept : Recorded { world.pass delay with
          history := .started step :: (world.pass delay).history } := ⟨recorded.1, recorded.2⟩
      exact ⟨kept.accounted, fun _ => kept⟩
  | sleep time =>
      have kept : Recorded (world.pass time) := ⟨recorded.1, recorded.2⟩
      exact ⟨kept.accounted, fun _ => kept⟩
  | send id dispatch =>
      simp only [Demand.deed, Deed.send, VirtualScreen.backend, VirtualScreen.send]
      split
      · exact ⟨recorded.accounted.trans (List.suffix_cons dispatch _), by simp⟩
      · next taken =>
          have kept : Recorded ⟨{ world.device with
                pointer := VirtualScreen.pointerAfter world.device.pointer dispatch
                record := dispatch :: world.device.record },
              world.environment, world.clock, .called dispatch :: world.history⟩ :=
            ⟨recorded.online, congrArg (dispatch :: ·) recorded.record⟩
          exact ⟨kept.accounted, fun _ => kept⟩

/-- The record of a screen only grows. -/
theorem record_passage (delay : Nat)
    : Passage VirtualScreen.backend (.steady delay)
        fun before after => before.device.record <:+ after.device.record where
  refl _ := List.suffix_rfl
  trans := List.IsSuffix.trans
  changed _ _ := List.suffix_rfl
  asked demand world := by
    cases demand with
    | enter step => exact List.suffix_rfl
    | sleep time => exact List.suffix_rfl
    | send id dispatch =>
        simp only [Demand.deed, Deed.send, VirtualScreen.backend, VirtualScreen.send]
        split
        · exact List.suffix_rfl
        · exact List.suffix_cons dispatch _

/-- A world with a virtual screen, told for a screen that goes offline right behind a number of calls.
-/
def failing (limit : Option Nat) (world : World VirtualScreen) : World FailingScreen where
  device := FailingScreen.settle ⟨world.device, limit.map (· - world.calls)⟩
  environment := world.environment
  clock := world.clock
  history := world.history

/-- A run with limited calls starts in the limited form of the world before a run. -/
theorem failing_initial (limit : Option Nat) (device : VirtualScreen) (environment : Environment)
    : World.initial (FailingScreen.settle ⟨device, limit⟩) environment
      = failing limit (.initial device environment) := by
  cases limit <;> rfl

/-- A limit of the calls does not change the number of calls so far. -/
theorem calls_failing (limit : Option Nat) (world : World VirtualScreen)
    : (failing limit world).calls = world.calls := rfl

/-- A limit of the calls does not change what happened so far. -/
theorem events_failing (error? : Option RunError) (limit : Option Nat)
    (world : World VirtualScreen)
    : Report.events ⟨error?, failing limit world⟩ = world.history.reverse := rfl

/-- What was sent to a failing screen is what was sent to the virtual screen. -/
theorem dispatches_failing (error? : Option RunError) (limit : Option Nat)
    (world : World VirtualScreen)
    : Report.dispatches ⟨error?, failing limit world⟩ = world.device.dispatches := by
  simp only [Report.dispatches, failing, FailingScreen.settle]
  split <;> rfl

/-- A failing screen meets a demand as the virtual screen does, unless it is input behind the limit.
-/
theorem Demand.deed_failing {limit : Option Nat} {world : World VirtualScreen} {demand : Demand}
    (delay : Nat)
    (left
      : ∀ id dispatch count,
          demand = .send id dispatch → limit = some count → world.calls < count)
    : demand.deed FailingScreen.backend (.steady delay) (failing limit world)
      = let outcome := demand.deed VirtualScreen.backend (.steady delay) world
        (outcome.1, failing limit outcome.2) := by
  cases demand with
  | enter step => simp [enter_steady, failing, World.pass, World.calls, Event.isCall]
  | sleep time => simp [Demand.deed, wait_steady, failing, World.pass, World.calls, Event.isCall]
  | send id dispatch =>
      have online : FailingScreen.settle ⟨world.device, limit.map (· - world.calls)⟩
          = ⟨world.device, limit.map (· - world.calls)⟩ := by
        cases limit with
        | none => rfl
        | some count =>
            have more := left id dispatch count rfl rfl
            rw [FailingScreen.settle, Option.map_some, if_neg]
            rw [Option.some.injEq]
            omega
      have counted : (limit.map (· - world.calls)).map (· - 1)
          = limit.map (· - (world.calls + 1)) := by
        cases limit <;> simp [Nat.sub_sub]
      have calls : ∀ after : VirtualScreen,
          World.calls ⟨after, world.environment, world.clock, .called dispatch :: world.history⟩
            = world.calls + 1 := fun _ => List.countP_cons_of_pos rfl
      simp only [Demand.deed, Deed.send, failing, online, FailingScreen.backend,
        FailingScreen.send, VirtualScreen.backend, counted, calls]

/-- Input behind the limit is refused, and nothing but the call is noted. -/
theorem send_behind_limit {count : Nat} {world : World VirtualScreen}
    (reached : count ≤ world.calls) (id : StepId) (dispatch : Dispatch)
    : Deed.send FailingScreen.backend id dispatch (failing (some count) world)
      = (some (.backend id .offline),
          { failing (some count) world with history := .called dispatch :: world.history }) := by
  have none : count - world.calls = 0 := Nat.sub_eq_zero_of_le reached
  simp [Deed.send, failing, FailingScreen.settle, FailingScreen.backend, FailingScreen.send, none,
    VirtualScreen.send, VirtualScreen.refusal?]

-----------------------------------------------------------------------------------------
-- The uncontrolled run
-----------------------------------------------------------------------------------------

/-- Runs steps on a virtual screen that nothing was sent to, with nothing to interrupt the run. -/
def screenRun (delay : Nat) (steps : List Step) (screen : Screen) (environment : Environment)
    : Option RunError × World VirtualScreen :=
  runSteps VirtualScreen.backend (.steady delay) steps (.initial (.blank screen) environment)

/-- What was sent before a moment is sent first. -/
theorem dispatches_of_moment {delay : Nat} {steps : List Step} {screen : Screen}
    {environment : Environment} {moment : Moment VirtualScreen}
    (member
      : moment ∈ moments VirtualScreen.backend (.steady delay) steps
          (.initial (.blank screen) environment))
    : moment.world.device.dispatches
      <+: (screenRun delay steps screen environment).2.device.dispatches := by
  have passage := record_passage delay
  exact List.reverse_prefix.mpr
    ((passage.asked moment.demand moment.world).trans (passage.of_moment member))

/-- Runs on a screen that may fail start from a world that is told for it. -/
theorem playOn_eq (controls : Controls) (limit : Option Nat) (steps : List Step)
    (device : VirtualScreen) (environment : Environment)
    : playOn controls limit steps device environment
      = let outcome := runSteps FailingScreen.backend controls steps
          (failing limit (.initial device environment))
        ⟨outcome.1, outcome.2⟩ := by
  rw [playOn, play, failing_initial]

end DesktopAutomation.Run
