import DesktopAutomation.Proofs.Run.Offline

/-! Runs that are cancelled right behind a number of calls. Only waits notice it: the step that makes
the call goes on to its end, and the next step is not started.
-/

namespace DesktopAutomation.Run

/-- Nothing but calls comes behind the call with a number, and nothing at all behind number zero. -/
def Settled (count : Nat) (events : List Event) : Prop :=
  ∀ event ∈ behindCall count events, event.isCall = true ∧ 0 < count

/-- Before the call any event may follow. -/
theorem Settled.before {count : Nat} {events : List Event} (settled : Settled count events)
    (few : events.countP Event.isCall < count) (event : Event)
    : Settled count (events ++ [event]) := by
  rw [Settled, behindCall_concat, if_neg (Nat.not_le_of_lt few), List.append_nil]
  exact settled

/-- A call may always follow, but for count zero. -/
theorem Settled.call {count : Nat} {events : List Event} (settled : Settled count events)
    (positive : 0 < count) (dispatch : Dispatch)
    : Settled count (events ++ [.called dispatch]) := by
  intro event member
  rw [behindCall_concat, List.mem_append] at member
  rcases member with early | last
  · exact settled event early
  · split at last
    · obtain rfl := List.mem_singleton.mp last
      exact ⟨rfl, positive⟩
    · simp at last

/-- Behind the call no step was the last to start. -/
theorem Settled.head {count : Nat} {world : World VirtualScreen} {step : Step}
    (settled : Settled count world.history.reverse) (reached : count ≤ world.calls)
    : world.history.head? ≠ some (.started step) := by
  intro started
  obtain ⟨earlier, history⟩ := List.head?_eq_some_iff.mp started
  have counted : count ≤ earlier.reverse.countP Event.isCall := by
    simpa [World.calls, history, Event.isCall] using reached
  rw [history, List.reverse_cons] at settled
  have late := settled (.started step) (by rw [behindCall_concat, if_pos counted]; simp)
  simp [Event.isCall] at late

/-- Behind number zero nothing has happened. -/
theorem Settled.zero {events : List Event} (settled : Settled 0 events) : events = [] := by
  rw [List.eq_nil_iff_forall_not_mem]
  intro event member
  rw [Settled, behindCall] at settled
  exact absurd (settled event member).2 (Nat.lt_irrefl 0)

/-- In this moment the run is cancelled behind a number of calls. Input is sent in spite of that, but
before any call there is none to send.
-/
def CancelledBehind (count : Nat) (moment : Moment VirtualScreen) : Prop :=
  match moment.demand with
  | .enter _ | .sleep _ => count ≤ moment.world.calls
  | .send .. => count = 0

theorem cancelled_iff (delay count : Nat) (world : World FailingScreen)
    : (Controls.mk delay none (some count)).cancelled world = true ↔ count ≤ world.calls := by
  simp [Controls.cancelled]

/-- A wait passes as long as the run is not cancelled. -/
theorem wait_uncancelled {delay count : Nat} {world : World FailingScreen}
    (few : world.calls < count) (time : Nat)
    : Deed.wait ⟨delay, none, some count⟩ time world = (none, world.pass time) := by
  have running : ¬(Controls.mk delay none (some count)).cancelled world = true := by
    rw [cancelled_iff]
    omega
  rw [Deed.wait, if_neg running]
  rfl

theorem wait_cancelled {delay count : Nat} {world : World FailingScreen}
    (reached : count ≤ world.calls) (time : Nat)
    : Deed.wait ⟨delay, none, some count⟩ time world = (some .cancelled, world) := by
  rw [Deed.wait, if_pos ((cancelled_iff delay count world).mpr reached)]

/-- Cancelling behind a number of calls interrupts a run in waits only. -/
theorem cancellation_interruption (delay count : Nat)
    : Interruption VirtualScreen.backend (.steady delay) FailingScreen.backend
        ⟨delay, none, some count⟩ (failing none)
        (fun world => Recorded world ∧ Settled count world.history.reverse)
        (fun world => Accounted world ∧ Settled count world.history.reverse)
        (CancelledBehind count) where
  environment_lift _ := rfl
  lift_changed _ _ := rfl
  alive_changed _ _ := fun ⟨⟨online, record⟩, settled⟩ => ⟨⟨online, record⟩, settled⟩
  ended_changed _ _ := id
  ended_of_alive _ := fun ⟨recorded, settled⟩ => ⟨recorded.accounted, settled⟩
  proceeds := by
    rintro world demand ⟨recorded, settled⟩ running
    have waits (length : Nat) (isLength : demand.length? delay = some length)
        : world.calls < count := by
      cases demand with
      | enter step => exact Nat.lt_of_not_le running
      | sleep time => exact Nat.lt_of_not_le running
      | send id dispatch => simp [Demand.length?] at isLength
    have same : demand.deed FailingScreen.backend ⟨delay, none, some count⟩ (failing none world)
        = demand.deed FailingScreen.backend (.steady delay) (failing none world) :=
      Demand.deed_of_wait FailingScreen.backend fun length isLength =>
        wait_uncancelled (waits length isLength) length
    have after : Settled count
        (demand.deed VirtualScreen.backend (.steady delay) world).2.history.reverse := by
      have calls : world.history.reverse.countP Event.isCall = world.calls := List.countP_reverse
      cases demand with
      | enter step =>
          have few := waits delay rfl
          simp only [enter_steady, World.pass, List.reverse_cons]
          refine (settled.before (calls ▸ few) _).before ?_ _
          simpa [Event.isCall, World.calls] using few
      | sleep time =>
          simp only [Demand.deed, wait_steady, World.pass, List.reverse_cons]
          exact settled.before (calls ▸ waits _ rfl) _
      | send id dispatch =>
          simp only [Demand.deed, Deed.send, List.reverse_cons]
          exact settled.call (Nat.pos_of_ne_zero running) dispatch
    obtain ⟨accounted, further⟩ := recorded.deed delay demand
    refine ⟨same.trans ?_, ⟨accounted, after⟩, fun done => ⟨further done, after⟩⟩
    exact Demand.deed_failing delay (by simp)

/-- A run that is cancelled behind a number of calls beside the run that is not: it is the same, or it
ends where the next step would be started.
-/
theorem playOn_cancelled (delay count : Nat) (steps : List Step) (screen : Screen)
    (environment : Environment)
    : let plain := screenRun delay steps screen environment
      let cut := playOn ⟨delay, none, some count⟩ none steps (.blank screen) environment
      (cut = ⟨plain.1, failing none plain.2⟩
        ∧ Accounted plain.2
        ∧ Settled count plain.2.history.reverse)
      ∨ ∃ world step,
          ⟨world, .enter step⟩ ∈ moments VirtualScreen.backend (.steady delay) steps
            (.initial (.blank screen) environment)
          ∧ Recorded world
          ∧ Settled count world.history.reverse
          ∧ count ≤ world.calls
          ∧ cut.error? = some .cancelled
          ∧ cut.world.history = world.history
          ∧ cut.dispatches = world.device.dispatches := by
  have start : Recorded (.initial (.blank screen) environment)
      ∧ Settled count (World.initial (VirtualScreen.blank screen) environment).history.reverse := by
    refine ⟨recorded_initial screen environment, fun event member => ?_⟩
    simp [World.initial, behindCall_nil] at member
  -- behind number zero no step has been started, so no input is asked for
  have noInput {world : World VirtualScreen} {id : StepId} {dispatch : Dispatch}
      (member
        : ⟨world, .send id dispatch⟩ ∈ moments VirtualScreen.backend (.steady delay) steps
            (.initial (.blank screen) environment))
      (settled : Settled count world.history.reverse)
      : count ≠ 0 := by
    rintro rfl
    obtain ⟨act, last⟩ := inContext_of_moment member
    simp [settled.zero, lastStarted?] at last
  have cuts {demand : Demand} {length : Nat} (world : World VirtualScreen)
      (waits : demand.length? delay = some length) (reached : count ≤ world.calls)
      : demand.deed FailingScreen.backend ⟨delay, none, some count⟩ (failing none world)
        = (some .cancelled, failing none world) :=
    Demand.deed_of_cut FailingScreen.backend waits (wait_cancelled reached length)
  have outcome := (cancellation_interruption delay count).runSteps steps start
    (by
      rintro ⟨world, demand⟩ member ⟨_, settled⟩ isCut
      cases demand with
      | enter step => rw [cuts world rfl isCut]; rfl
      | sleep time => rw [cuts world rfl isCut]; rfl
      | send id dispatch => exact absurd isCut (noInput member settled))
  rw [playOn_eq]
  generalize Run.runSteps FailingScreen.backend ⟨delay, none, some count⟩ steps _ = cut at outcome
  cases outcome with
  | same isOver further => exact .inl ⟨rfl, isOver⟩
  | @interrupted moment error after member isAlive isCut fails unwound =>
      right
      obtain ⟨world, demand⟩ := moment
      obtain ⟨recorded, settled⟩ := isAlive
      cases demand with
      | enter step =>
          rw [cuts world rfl isCut] at fails unwound
          obtain rfl := Option.some.inj fails
          refine ⟨world, step, member, recorded, settled, isCut, rfl, unwound.history, ?_⟩
          rw [Report.dispatches, unwound.device]
          exact dispatches_failing none none world
      | sleep time =>
          obtain ⟨step, started⟩ := inContext_of_moment member
          exact absurd started (settled.head isCut)
      | send id dispatch => exact absurd isCut (noInput member settled)

/-- If a run is cancelled right behind a number of calls, its events are the first of those of the
uncontrolled run, with as many dispatches at least as that number allows. Behind the call there are
only calls of the step that made it, and none if the number is zero; no time passes there. The run
ends as the uncontrolled one if that one makes fewer calls or starts no step behind, and else as a
cancelled one.
-/
theorem playOn_cancelAfter (delay count : Nat) (steps : List Step) (screen : Screen)
    (environment : Environment)
    : let plain := playOn (.steady delay) none steps (.blank screen) environment
      let cut := playOn ⟨delay, none, some count⟩ none steps (.blank screen) environment
      cut.events <+: plain.events
      ∧ cut.dispatches <+: plain.dispatches
      ∧ min count plain.dispatches.length ≤ cut.dispatches.length
      ∧ cut.dispatches <+: sent cut.events
      ∧ (∀ event ∈ behindCall count cut.events, event.isCall = true ∧ 0 < count)
      ∧ cut.world.clock = elapsed cut.events
      ∧ elapsed (behindCall count cut.events) = 0
      ∧ if plain.world.calls < count
            ∨ ∀ event ∈ behindCall count plain.events, event.started? = none then
          cut.error? = plain.error?
          ∧ cut.dispatches = plain.dispatches
          ∧ cut.world.environment = plain.world.environment
        else
          cut.error? = some .cancelled := by
  obtain ⟨isPlain, accounted⟩ := playOn_unlimited delay steps screen environment
  have clock := clock_eq_elapsed FailingScreen.backend ⟨delay, none, some count⟩ steps
    (FailingScreen.settle ⟨.blank screen, none⟩) environment
  simp only [isPlain, dispatches_failing, events_failing, calls_failing]
  rcases playOn_cancelled delay count steps screen environment with
    ⟨isCut, _, settled⟩ | ⟨world, step, member, recorded, settled, reached, error, history, onlySent⟩
  · have noStart : ∀ event ∈ behindCall count
        (screenRun delay steps screen environment).2.history.reverse, event.started? = none := by
      intro event behind
      have isCall := (settled event behind).1
      cases event <;> simp_all [Event.isCall, Event.started?]
    have cutEvents := (congrArg Report.events isCut).trans (events_failing ..)
    have cutSent := (congrArg Report.dispatches isCut).trans (dispatches_failing ..)
    rw [cutEvents, cutSent, if_pos (.inr noStart)]
    refine ⟨List.prefix_rfl, List.prefix_rfl, Nat.min_le_right .., accounted.dispatches, settled,
      cutEvents ▸ clock, elapsed_calls fun event behind => (settled event behind).1, ?_⟩
    rw [isCut]
    exact ⟨rfl, rfl, rfl⟩
  · obtain ⟨later, whole⟩ := (history_passage VirtualScreen.backend delay).of_moment member
    have behind : (screenRun delay steps screen environment).2.history
        = later ++ .started step :: .waited delay :: world.history := whole.symm
    have plainEvents : (screenRun delay steps screen environment).2.history.reverse
        = world.history.reverse ++ .waited delay :: .started step :: later.reverse := by
      simp [behind]
    have goesOn : ¬((screenRun delay steps screen environment).2.calls < count
        ∨ ∀ event ∈ behindCall count
            (screenRun delay steps screen environment).2.history.reverse,
            event.started? = none) := by
      have counted : count ≤ world.history.reverse.countP Event.isCall := by
        rw [List.countP_reverse]
        exact reached
      rintro (few | noStart)
      · rw [World.calls, ← List.countP_reverse, plainEvents, List.countP_append] at few
        omega
      · rw [plainEvents, behindCall_append counted] at noStart
        have never := noStart (.started step) (by simp)
        simp [Event.started?] at never
    have cutEvents : Report.events _ = world.history.reverse := congrArg List.reverse history
    rw [if_neg goesOn, onlySent, cutEvents]
    refine ⟨?_, dispatches_of_moment member, ?_, recorded.accounted.dispatches, settled,
      cutEvents ▸ clock, ?_, error⟩
    · rw [plainEvents]
      exact List.prefix_append ..
    · rw [recorded.length]
      exact Nat.le_trans (Nat.min_le_left ..) reached
    · exact elapsed_calls fun event behind => (settled event behind).1

end DesktopAutomation.Run
