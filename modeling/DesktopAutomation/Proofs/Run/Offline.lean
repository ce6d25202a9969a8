import DesktopAutomation.Proofs.Run.Calls

/-! Runs on a screen that goes offline right behind a number of calls. Up to that call the run is the
one on a screen that never fails; the next call is its last event, and the error names the step that
makes this call.
-/

namespace DesktopAutomation.Run

/-- No more calls were made than a limit allows, if there is one. -/
def Within (limit : Option Nat) (world : World VirtualScreen) : Prop :=
  ∀ count, limit = some count → world.calls ≤ count

/-- In this moment input is asked for behind the limit. -/
def BehindLimit (limit : Option Nat) (moment : Moment VirtualScreen) : Prop :=
  ∃ id dispatch count,
    moment.demand = .send id dispatch ∧ limit = some count ∧ count ≤ moment.world.calls

/-- A call that was allowed keeps the run within its limit. -/
theorem Within.deed {limit : Option Nat} {world : World VirtualScreen} {demand : Demand}
    (within : Within limit world) (allowed : ¬BehindLimit limit ⟨world, demand⟩) (delay : Nat)
    : Within limit (demand.deed VirtualScreen.backend (.steady delay) world).2 := by
  intro count isLimit
  cases demand with
  | enter step => exact within count isLimit
  | sleep time => exact within count isLimit
  | send id dispatch =>
      have calls : (Deed.send VirtualScreen.backend id dispatch world).2.calls = world.calls + 1 :=
        List.countP_cons_of_pos rfl
      rw [Demand.deed, calls]
      by_contra beyond
      exact allowed ⟨id, dispatch, count, rfl, isLimit, Nat.le_of_lt_succ (Nat.lt_of_not_le beyond)⟩

/-- A screen that goes offline interrupts a run in no other moments than with input behind its limit.
-/
theorem offline_interruption (delay : Nat) (limit : Option Nat)
    : Interruption VirtualScreen.backend (.steady delay) FailingScreen.backend (.steady delay)
        (failing limit)
        (fun world => Recorded world ∧ Within limit world)
        (fun world => Accounted world ∧ Within limit world)
        (BehindLimit limit) where
  environment_lift _ := rfl
  lift_changed _ _ := rfl
  alive_changed _ _ := fun ⟨⟨online, record⟩, within⟩ => ⟨⟨online, record⟩, within⟩
  ended_changed _ _ := id
  ended_of_alive _ := fun ⟨recorded, within⟩ => ⟨recorded.accounted, within⟩
  proceeds := by
    rintro world demand ⟨recorded, within⟩ allowed
    have after := within.deed allowed delay
    obtain ⟨accounted, further⟩ := recorded.deed delay demand
    refine ⟨Demand.deed_failing delay ?_, ⟨accounted, after⟩, fun done => ⟨further done, after⟩⟩
    intro id dispatch count asks isLimit
    by_contra reached
    exact allowed ⟨id, dispatch, count, asks, isLimit, Nat.le_of_not_lt reached⟩

/-- A run on a screen with a limit beside the run on a screen without: it is the same, or it ends with
the first call behind the limit.
-/
theorem playOn_limited (delay : Nat) (limit : Option Nat) (steps : List Step) (screen : Screen)
    (environment : Environment)
    : let plain := screenRun delay steps screen environment
      let cut := playOn (.steady delay) limit steps (.blank screen) environment
      (cut = ⟨plain.1, failing limit plain.2⟩ ∧ Accounted plain.2 ∧ Within limit plain.2)
      ∨ ∃ moment ∈ moments VirtualScreen.backend (.steady delay) steps
            (.initial (.blank screen) environment),
          Recorded moment.world
          ∧ ∃ id dispatch,
              moment.demand = .send id dispatch
              ∧ limit = some moment.world.calls
              ∧ cut.error? = some (.backend id .offline)
              ∧ cut.world.history = .called dispatch :: moment.world.history
              ∧ cut.dispatches = moment.world.device.dispatches := by
  have start : Recorded (.initial (.blank screen) environment)
      ∧ Within limit (.initial (.blank screen) environment) :=
    ⟨recorded_initial screen environment, fun _ _ => Nat.zero_le _⟩
  have outcome := (offline_interruption delay limit).runSteps steps start
    (by
      rintro ⟨world, demand⟩ _ _ ⟨id, dispatch, count, rfl, rfl, reached⟩
      simp only [Demand.deed, send_behind_limit reached, Option.isSome_some])
  rw [playOn_eq]
  generalize Run.runSteps FailingScreen.backend (.steady delay) steps _ = cut at outcome
  cases outcome with
  | same isOver further => exact .inl ⟨rfl, isOver⟩
  | @interrupted moment error after member isAlive isCut fails unwound =>
      right
      obtain ⟨world, demand⟩ := moment
      obtain ⟨recorded, within⟩ := isAlive
      obtain ⟨id, dispatch, count, rfl, rfl, reached⟩ := isCut
      simp only [Demand.deed, send_behind_limit reached] at fails unwound
      obtain rfl := Option.some.inj fails
      refine ⟨_, member, recorded, id, dispatch, rfl, ?_, rfl, unwound.history, ?_⟩
      · exact congrArg some (Nat.le_antisymm reached (within count rfl))
      · rw [Report.dispatches, unwound.device]
        exact dispatches_failing none (some count) world

/-- Without a limit, a run is the one on the virtual screen. -/
theorem playOn_unlimited (delay : Nat) (steps : List Step) (screen : Screen)
    (environment : Environment)
    : let plain := screenRun delay steps screen environment
      playOn (.steady delay) none steps (.blank screen) environment
          = ⟨plain.1, failing none plain.2⟩
        ∧ Accounted plain.2 := by
  rcases playOn_limited delay none steps screen environment with same | ⟨_, _, _, _, _, _, limit, _⟩
  · exact ⟨same.1, same.2.1⟩
  · simp at limit

/-- If the screen goes offline right behind a number of calls, just so many of the dispatches of the
uncontrolled run are sent. A run with no more calls ends as that run does. All others end with the
call behind, the last event of all: the error tells that the screen is offline, and names the step
that makes this call in the uncontrolled run.
-/
theorem playOn_offlineAfter (delay count : Nat) (steps : List Step) (screen : Screen)
    (environment : Environment)
    : let plain := playOn (.steady delay) none steps (.blank screen) environment
      let cut := playOn (.steady delay) (some count) steps (.blank screen) environment
      cut.dispatches = plain.dispatches.take count
      ∧ if plain.world.calls ≤ count then
          cut.error? = plain.error? ∧ cut.world.environment = plain.world.environment
        else
          ∃ before dispatch later id act,
            plain.events = before ++ .called dispatch :: later
            ∧ before.countP Event.isCall = count
            ∧ lastStarted? before = some (.action id act)
            ∧ cut.error? = some (.backend id .offline)
            ∧ cut.events = before ++ [.called dispatch] := by
  obtain ⟨isPlain, accounted⟩ := playOn_unlimited delay steps screen environment
  simp only [isPlain, dispatches_failing, events_failing, calls_failing]
  rcases playOn_limited delay (some count) steps screen environment with
    ⟨isCut, _, within⟩
      | ⟨⟨world, _⟩, member, recorded, id, dispatch, rfl, isLimit, error, history, onlySent⟩
  · have few := within count rfl
    have all : (screenRun delay steps screen environment).2.device.dispatches.length ≤ count :=
      Nat.le_trans accounted.length_le few
    rw [isCut, dispatches_failing, List.take_of_length_le all, if_pos few]
    exact ⟨rfl, rfl, rfl⟩
  · obtain rfl : count = world.calls := Option.some.inj isLimit
    obtain ⟨act, last⟩ := inContext_of_moment member
    obtain ⟨later, whole⟩ := (history_passage VirtualScreen.backend delay).of_moment member
    have behind : (screenRun delay steps screen environment).2.history
        = later ++ .called dispatch :: world.history := whole.symm
    have more : ¬(screenRun delay steps screen environment).2.calls ≤ world.calls := by
      rw [World.calls, behind, List.countP_append, List.countP_cons_of_pos rfl, World.calls]
      omega
    have taken : world.device.dispatches
        = (screenRun delay steps screen environment).2.device.dispatches.take world.calls := by
      rw [← recorded.length]
      exact List.prefix_iff_eq_take.mp (dispatches_of_moment member)
    rw [if_neg more]
    refine ⟨onlySent.trans taken, ?_⟩
    refine ⟨world.history.reverse, dispatch, later.reverse, id, act, ?_, ?_, last, error, ?_⟩
    · rw [behind, List.reverse_append, List.reverse_cons, List.append_assoc, List.singleton_append]
    · rw [List.countP_reverse, World.calls]
    · rw [Report.events, history, List.reverse_cons]

end DesktopAutomation.Run
