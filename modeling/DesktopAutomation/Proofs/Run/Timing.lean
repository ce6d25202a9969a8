import DesktopAutomation.Proofs.Run.Calls
import DesktopAutomation.Proofs.Run.Cycle

/-! Runs that are cancelled at a time. Only a wait around this time is cut, and it is cut right there:
what the run has done before it stays, and nothing is done behind.
-/

namespace DesktopAutomation.Run

variable {σ : Type}

/-- The run is before some time, and its clock tells the time of its waits. -/
structure Before (time : Nat) (world : World σ) : Prop where
  early : world.clock < time
  elapsed : world.clock = elapsed world.history.reverse

/-- In this moment a wait begins that ends no sooner than some time. -/
def Outlasts (delay time : Nat) (moment : Moment σ) : Prop :=
  ∃ length, moment.demand.length? delay = some length ∧ time ≤ moment.world.clock + length

/-- A wait that is over before the run is cancelled passes. -/
theorem wait_early {delay time length : Nat} {world : World σ} (ends : world.clock + length < time)
    : Deed.wait ⟨delay, some time, none⟩ length world = (none, world.pass length) := by
  have running : ¬(Controls.mk delay (some time) none).cancelled world = true := by
    simp [Controls.cancelled]
    omega
  have uncut : (some time).filter (fun cut => decide (cut < world.clock + length)) = none := by
    simp
    omega
  rw [Deed.wait, if_neg running]
  simp only [uncut]

/-- A wait around the time at which the run is cancelled is cut there. -/
theorem wait_cut {delay time length : Nat} {world : World σ} (early : world.clock < time)
    (late : time < world.clock + length)
    : Deed.wait ⟨delay, some time, none⟩ length world
      = (some .cancelled, world.pass (time - world.clock)) := by
  have running : ¬(Controls.mk delay (some time) none).cancelled world = true := by
    simp [Controls.cancelled]
    omega
  have cut : (some time).filter (fun cut => decide (cut < world.clock + length)) = some time := by
    simpa using late
  rw [Deed.wait, if_neg running]
  simp only [cut]

/-- Cancelling at a time interrupts a run in no other moments than with waits that reach it. -/
theorem timed_interruption (backend : InputBackend σ) (delay time : Nat)
    : Interruption backend (.steady delay) backend ⟨delay, some time, none⟩ id (Before time)
        (Before time) (Outlasts delay time) where
  environment_lift _ := rfl
  lift_changed _ _ := rfl
  alive_changed _ _ := fun ⟨early, elapsed⟩ => ⟨early, elapsed⟩
  ended_changed _ _ := fun ⟨early, elapsed⟩ => ⟨early, elapsed⟩
  ended_of_alive _ := id
  proceeds := by
    rintro world demand ⟨early, isElapsed⟩ short
    have ends (length : Nat) (isLength : demand.length? delay = some length)
        : world.clock + length < time := by
      by_contra reaches
      exact short ⟨length, isLength, Nat.le_of_not_lt reaches⟩
    have after : Before time (demand.deed backend (.steady delay) world).2 := by
      cases demand with
      | enter step =>
          refine ⟨ends delay rfl, ?_⟩
          simpa [enter_steady, World.pass, Run.elapsed, Event.time] using isElapsed
      | sleep length =>
          refine ⟨ends length rfl, ?_⟩
          simpa [Demand.deed, wait_steady, World.pass, Run.elapsed, Event.time] using isElapsed
      | send id dispatch =>
          refine ⟨early, ?_⟩
          simpa [Demand.deed, Deed.send, Run.elapsed, Event.time] using isElapsed
    refine ⟨?_, after, fun _ => after⟩
    exact Demand.deed_of_wait backend fun length isLength => wait_early (ends length isLength)

/-- Meeting a demand takes no time back. -/
theorem clock_passage (backend : InputBackend σ) (delay : Nat)
    : Passage backend (.steady delay) fun before after : World σ => before.clock ≤ after.clock where
  refl _ := Nat.le_refl _
  trans := Nat.le_trans
  changed _ _ := Nat.le_refl _
  asked demand world := by
    cases demand with
    | enter step => exact Nat.le_add_right world.clock delay
    | sleep time => exact Nat.le_add_right world.clock time
    | send id dispatch => exact Nat.le_refl _

/-- A wait of an uncancelled run is over before the run is. -/
theorem wait_of_moment {backend : InputBackend σ} {delay : Nat} {steps : List Step}
    {world : World σ} {moment : Moment σ} {length : Nat}
    (member : moment ∈ moments backend (.steady delay) steps world)
    (waits : moment.demand.length? delay = some length)
    : moment.world.clock + length ≤ (runSteps backend (.steady delay) steps world).2.clock
      ∧ ∃ later, (runSteps backend (.steady delay) steps world).2.history
          = later ++ .waited length :: moment.world.history := by
  have clock := (clock_passage backend delay).of_moment member
  obtain ⟨later, history⟩ := (history_passage backend delay).of_moment member
  obtain ⟨start, demand⟩ := moment
  cases demand with
  | enter step =>
      obtain rfl := Option.some.inj waits
      refine ⟨clock, later ++ [.started step], ?_⟩
      rw [← history, List.append_assoc]
      rfl
  | sleep time =>
      obtain rfl := Option.some.inj waits
      exact ⟨clock, later, history.symm⟩
  | send id dispatch => simp [Demand.length?] at waits

/-- A run that is cancelled at a time at which no wait ends, beside the run that is not: it is the
same and over before that time, or it ends at that time in a wait around it.
-/
theorem runSteps_cancelAt (backend : InputBackend σ) (delay time : Nat) (steps : List Step)
    {world : World σ} (start : Before time world)
    (apart
      : time ∉ waitEnds 0 (runSteps backend (.steady delay) steps world).2.history.reverse)
    : let plain := runSteps backend (.steady delay) steps world
      let cut := runSteps backend ⟨delay, some time, none⟩ steps world
      (cut = plain ∧ plain.2.clock < time)
      ∨ ∃ moment ∈ moments backend (.steady delay) steps world,
          ∃ length,
            moment.demand.length? delay = some length
            ∧ moment.world.clock < time
            ∧ time < moment.world.clock + length
            ∧ cut.1 = some .cancelled
            ∧ Unwound (moment.world.pass (time - moment.world.clock)) cut.2 := by
  have strict {moment : Moment σ}
      (member : moment ∈ moments backend (.steady delay) steps world)
      (before : Before time moment.world) {length : Nat}
      (waits : moment.demand.length? delay = some length)
      : time ≠ moment.world.clock + length := by
    obtain ⟨_, later, history⟩ := wait_of_moment member waits
    have ends := mem_waitEnds 0 moment.world.history.reverse length later.reverse
    rintro rfl
    apply apart
    simpa [history, before.elapsed] using ends
  have cuts {moment : Moment σ}
      (member : moment ∈ moments backend (.steady delay) steps world)
      (before : Before time moment.world) {length : Nat}
      (waits : moment.demand.length? delay = some length)
      (reaches : time ≤ moment.world.clock + length)
      : time < moment.world.clock + length
        ∧ moment.demand.deed backend ⟨delay, some time, none⟩ moment.world
          = (some .cancelled, moment.world.pass (time - moment.world.clock)) := by
    have late := Nat.lt_of_le_of_ne reaches (strict member before waits)
    exact ⟨late, Demand.deed_of_cut backend waits (wait_cut before.early late)⟩
  have outcome := (timed_interruption backend delay time).runSteps steps start
    (by
      rintro moment member before ⟨length, waits, reaches⟩
      simp only [id, (cuts member before waits reaches).2, Option.isSome_some])
  intro plain cut
  change Interruption.Outcome _ _ id _ _ _ _ plain cut at outcome
  generalize cut = cut at outcome ⊢
  cases outcome with
  | same isOver further => exact .inl ⟨rfl, isOver.early⟩
  | @interrupted moment error after member before isCut fails unwound =>
      obtain ⟨length, waits, reaches⟩ := isCut
      obtain ⟨late, deed⟩ := cuts member before waits reaches
      simp only [id, deed] at fails unwound
      obtain rfl := Option.some.inj fails
      exact .inr ⟨moment, member, length, waits, before.early, late, rfl, unwound⟩

/-- If a run is cancelled at a time at which none of its waits ends, it is the uncancelled run if that
one is over before. If it is not, the cancelled run ends at just this time, in a wait around it: with
what had been sent and the lasting variables as they were when the uncancelled run began this wait,
and without shadows.
-/
theorem playOn_cancelAt (delay time : Nat) (steps : List Step) (screen : Screen)
    (environment : Environment) (unshadowed : environment.shadows = []) (positive : 0 < time)
    (apart
      : time ∉ waitEnds 0 (playOn (.steady delay) none steps (.blank screen) environment).events)
    : let plain := playOn (.steady delay) none steps (.blank screen) environment
      let cut := playOn ⟨delay, some time, none⟩ none steps (.blank screen) environment
      plain.world.clock = elapsed plain.events
      ∧ (plain.world.clock < time → cut = plain)
      ∧ (time < plain.world.clock
        → cut.error? = some .cancelled
          ∧ cut.world.clock = time
          ∧ cut.world.environment.shadows = []
          ∧ ∃ moment ∈ moments FailingScreen.backend (.steady delay) steps
                (.initial ⟨.blank screen, none⟩ environment),
              ∃ length,
                moment.demand.length? delay = some length
                ∧ moment.world.history.reverse ++ [.waited length] <+: plain.events
                ∧ moment.world.clock < time
                ∧ time < moment.world.clock + length
                ∧ cut.dispatches = moment.world.device.device.dispatches
                ∧ cut.world.environment.bindings = moment.world.environment.bindings) := by
  have start : Before time (.initial (σ := FailingScreen) ⟨.blank screen, none⟩ environment) :=
    ⟨positive, rfl⟩
  have clock := clock_eq_elapsed FailingScreen.backend (.steady delay) steps
    ⟨.blank screen, none⟩ environment
  have framed := (framed_relation FailingScreen.backend).runSteps ⟨delay, some time, none⟩ steps
    (.initial ⟨.blank screen, none⟩ environment)
  intro plain cut
  refine ⟨clock, ?_⟩
  rcases runSteps_cancelAt FailingScreen.backend delay time steps start apart with
    ⟨same, isOver⟩ | ⟨moment, member, length, waits, early, late, stopped, unwound⟩
  · have isPlain : cut = plain :=
      congrArg (fun outcome : Option RunError × World FailingScreen =>
        Report.mk outcome.1 outcome.2) same
    exact ⟨fun _ => isPlain, fun further => absurd isOver (Nat.lt_asymm further)⟩
  · obtain ⟨within, later, history⟩ := wait_of_moment member waits
    have further : time < plain.world.clock := Nat.lt_of_lt_of_le late within
    refine ⟨fun isOver => absurd isOver (Nat.lt_asymm further), fun _ => ⟨stopped, ?_, ?_, ?_⟩⟩
    · have clock : cut.world.clock = moment.world.clock + (time - moment.world.clock) :=
        unwound.clock
      omega
    · have keys : cut.world.environment.shadowKeys = environment.shadowKeys := framed.keys
      simpa [Environment.shadowKeys, unshadowed] using keys
    · refine ⟨moment, member, length, waits, ?_, early, late, ?_, unwound.bindings⟩
      · have events : plain.events = _ := congrArg List.reverse history
        rw [events]
        exact ⟨later.reverse, by simp⟩
      · exact congrArg (fun screen => screen.device.dispatches) unwound.device

/-- Steps that type each text of a list behind a pause. -/
def pausedTyping : List Step :=
  [.statement ⟨1⟩ (.cycle "lines" "line")
    [.action ⟨2⟩ (.sleep 50), .action ⟨3⟩ (.write "" "line")]]

/-- Variables with a list of two texts. -/
def twoLines : Environment := ⟨.ofList [("lines", .ofTexts ⟨0⟩ ["a", "b"])], []⟩

theorem playOn_cancelAt_pausedTyping
    : twoLines.shadows = []
      ∧ 100 ∉ waitEnds 0 (playOn (.steady 10) none pausedTyping (.blank .standard) twoLines).events
      ∧ 100 < (playOn (.steady 10) none pausedTyping (.blank .standard) twoLines).world.clock
      ∧ (playOn ⟨10, some 100, none⟩ none pausedTyping (.blank .standard) twoLines).error?
        = some .cancelled
      ∧ (playOn ⟨10, some 100, none⟩ none pausedTyping (.blank .standard) twoLines).world.clock
        = 100
      ∧ (playOn ⟨10, some 100, none⟩ none pausedTyping (.blank .standard) twoLines).dispatches
        = [.text "a"] := by
  have apart : 100
      ∉ waitEnds 0 (playOn (.steady 10) none pausedTyping (.blank .standard) twoLines).events := by
    decide +kernel
  have further : 100
      < (playOn (.steady 10) none pausedTyping (.blank .standard) twoLines).world.clock := by
    decide +kernel
  obtain ⟨_, _, cutShort⟩ :=
    playOn_cancelAt 10 100 pausedTyping .standard twoLines rfl (by decide) apart
  obtain ⟨cancelled, clock, _⟩ := cutShort further
  exact ⟨rfl, apart, further, cancelled, clock, by decide +kernel⟩

end DesktopAutomation.Run
