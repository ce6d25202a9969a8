import DesktopAutomation.Proofs.Run.Moments

/-! How the moments of a run lie in it: what is done on a demand leads on to the end of the run, and
input is asked for while the step that was started last is an action.
-/

namespace DesktopAutomation.Run

variable {σ : Type}

-----------------------------------------------------------------------------------------
-- From a moment to the end
-----------------------------------------------------------------------------------------

/-- A relation between worlds that changes of variables and all demands of a run stay in. -/
structure Passage (backend : InputBackend σ) (controls : Controls)
    (related : World σ → World σ → Prop) : Prop extends Chain related where
  changed
    : ∀ world environment, related world { world with environment := environment }
  asked
    : ∀ (demand : Demand) world, related world (demand.deed backend controls world).2

/-- The end of a run is related to its start, and to the world behind each of its moments. -/
def Course.Passes (related : World σ → World σ → Prop) (backend : InputBackend σ)
    (controls : Controls) (course : Course σ) (deed : Deed σ) : Prop :=
  ∀ world,
    related world (deed world).2
    ∧ course.run = deed
    ∧ ∀ moment ∈ course.moments world,
        related (moment.demand.deed backend controls moment.world).2 (deed world).2

namespace Passage
variable {backend : InputBackend σ} {controls : Controls} {related : World σ → World σ → Prop}

theorem congruence (passage : Passage backend controls related)
    : Congruence (Course.Passes related backend controls) where
  done world := ⟨passage.refl world, rfl, by simp [Course.done]⟩
  andThen := by
    intro first second deed next firstPasses secondPasses world
    obtain ⟨toMiddle, rfl, firstMoments⟩ := firstPasses world
    obtain rfl := (secondPasses world).2.1
    refine ⟨?_, rfl, ?_⟩
    · exact passage.toChain.andThen (fun world => (firstPasses world).1)
        (fun world => (secondPasses world).1) world
    · intro moment member
      rw [Deed.andThen]
      rcases Course.mem_moments_andThen.mp member with early | ⟨after, ran, late⟩
      · have behind := firstMoments moment early
        split
        · next after ran =>
            rw [ran] at behind
            exact passage.trans behind (secondPasses after).1
        · exact behind
      · simp only [ran]
        exact (secondPasses after).2.2 moment late
  reading := by
    intro α read use deed each world
    obtain rfl : (fun value => (use value).run) = deed :=
      funext fun value => (each value world).2.1
    refine ⟨passage.toChain.reading (fun value world => (each value world).1) world, rfl, ?_⟩
    intro moment member
    obtain ⟨value, found, inner⟩ := Course.mem_moments_reading.mp member
    simp only [Deed.reading, found]
    exact (each value world).2.2 moment inner
  shadowing := by
    intro course deed name binding passes world
    obtain ⟨across, rfl, inner⟩ :=
      passes { world with environment := world.environment.shadow name binding }
    have unwinds := passage.changed (course.run
      { world with environment := world.environment.shadow name binding }).2
    refine ⟨passage.trans (passage.changed world _) (passage.trans across (unwinds _)), rfl, ?_⟩
    intro moment member
    exact passage.trans (inner moment member) (unwinds _)

/-- What is done on a demand leads on to the end of the run. -/
theorem of_moment (passage : Passage backend controls related) {steps : List Step}
    {world : World σ} {moment : Moment σ}
    (member : moment ∈ moments backend controls steps world)
    : related (moment.demand.deed backend controls moment.world).2
        (runSteps backend controls steps world).2 := by
  have passes : Course.Passes related backend controls (course backend controls steps)
      (runSteps backend controls steps) :=
    passage.congruence.steps_of_demands
      (fun edit world => ⟨passage.changed world _, rfl, by simp [Course.change]⟩)
      (fun demand world => ⟨passage.asked demand world, rfl, by
        simpa [Course.ask] using passage.refl _⟩)
      steps
  exact (passes world).2.2 moment member

end Passage

-----------------------------------------------------------------------------------------
-- The step that a demand belongs to
-----------------------------------------------------------------------------------------

/-- The step that an event starts. -/
def Event.started? : Event → Option Step
  | .started step => some step
  | _ => none

/-- The step that was started last among some events, the first of which comes first. -/
def lastStarted? (events : List Event) : Option Step := (events.filterMap Event.started?).getLast?

/-- A sleep is asked for right behind the start of a step, and input while the step that was started
last is an action with the id that the input is sent for.
-/
def Moment.InContext (moment : Moment σ) : Prop :=
  match moment.demand with
  | .enter _ => True
  | .sleep _ => ∃ step, moment.world.history.head? = some (.started step)
  | .send id _ =>
    ∃ act, lastStarted? moment.world.history.reverse = some (.action id act)

/-- All demands of a course are made in their context. -/
def Course.InContext (course : Course σ) (_ : Deed σ) : Prop :=
  ∀ world, ∀ moment ∈ course.moments world, moment.InContext

theorem lastStarted?_started (step : Step) (history : List Event)
    : lastStarted? (Event.started step :: history).reverse = some step := by
  simp [lastStarted?, Event.started?]

theorem lastStarted?_called (dispatch : Dispatch) (history : List Event)
    : lastStarted? (Event.called dispatch :: history).reverse = lastStarted? history.reverse := by
  simp [lastStarted?, Event.started?]

/-- A step that is entered is the last thing that happened. -/
theorem history_of_entered {backend : InputBackend σ} {controls : Controls} {step : Step}
    {world after : World σ}
    (entered : (Demand.enter step).deed backend controls world = (none, after))
    : after.history.head? = some (.started step) := by
  rw [Demand.deed, Deed.andThen] at entered
  split at entered
  · simp only [Deed.start, Prod.mk.injEq, true_and] at entered
    rw [← entered, List.head?_cons]
  · next waited stopped =>
      simp only [entered] at stopped
      exact absurd rfl (stopped after)

/-- Input that is sent one by one for an action is asked for in its context, by induction over the
input; sending starts no step.
-/
theorem inContext_forEach_send {backend : InputBackend σ} {controls : Controls} {id : StepId}
    {act : Action} (input : List Dispatch) {world : World σ}
    (last : lastStarted? world.history.reverse = some (.action id act))
    : ∀ moment ∈
        (Course.forEach (fun dispatch => .ask backend controls (.send id dispatch)) input).moments
          world,
        moment.InContext := by
  induction input generalizing world with
  | nil => simp [Course.forEach, Course.done]
  | cons dispatch rest ih =>
      intro moment member
      simp only [Course.forEach, Course.andThen, Course.ask, List.singleton_append,
        List.mem_cons] at member
      rcases member with rfl | behind
      · exact ⟨act, last⟩
      · have sent : lastStarted? (Deed.send backend id dispatch world).2.history.reverse
            = some (.action id act) := (lastStarted?_called dispatch world.history).trans last
        rw [Demand.deed] at behind
        split at behind
        · next after ran =>
            rw [ran] at sent
            exact ih sent moment behind
        · simp at behind

/-- An action that was just started asks in its context. -/
theorem inContext_actionCourse {backend : InputBackend σ} {controls : Controls} {id : StepId}
    {act : Action} {world : World σ}
    (started : world.history.head? = some (.started (.action id act)))
    : ∀ moment ∈ (actionCourse backend controls id act).moments world, moment.InContext := by
  have last : lastStarted? world.history.reverse = some (.action id act) := by
    obtain ⟨earlier, history⟩ := List.head?_eq_some_iff.mp started
    rw [history, lastStarted?_started]
  intro moment member
  cases act with
  | move | click | pressKeyboard =>
      obtain rfl := List.mem_singleton.mp member
      exact ⟨_, last⟩
  | write text readFrom =>
      simp only [actionCourse, Course.reading] at member
      split at member
      · exact inContext_forEach_send _ last moment member
      · simp at member
  | sleep time =>
      obtain rfl := List.mem_singleton.mp member
      exact ⟨_, started⟩
  | parseString | destructVariable =>
      simp only [actionCourse, Course.reading, Course.change] at member
      split at member <;> simp at member
  | setVariable => simp [actionCourse, Course.change] at member

/-- Every demand of a run is made in its context. -/
theorem inContext_of_moment {backend : InputBackend σ} {controls : Controls} {steps : List Step}
    {world : World σ} {moment : Moment σ}
    (member : moment ∈ moments backend controls steps world)
    : moment.InContext := by
  have congruence : Congruence (σ := σ) Course.InContext := {
    done := by simp [Course.InContext, Course.done]
    andThen := by
      intro first second _ _ early late world moment member
      rcases Course.mem_moments_andThen.mp member with isEarly | ⟨after, _, isLate⟩
      · exact early world moment isEarly
      · exact late after moment isLate
    reading := by
      intro α read use _ each world moment member
      obtain ⟨value, _, inner⟩ := Course.mem_moments_reading.mp member
      exact each value world moment inner
    shadowing := fun _ _ inner world => inner _
  }
  have enter (step : Step)
      : (Course.ask backend controls (.enter step)).InContext
          ((Demand.enter step).deed backend controls) := by
    intro world moment member
    obtain rfl := List.mem_singleton.mp member
    trivial
  have all : (course backend controls steps).InContext (runSteps backend controls steps) := by
    refine congruence.steps enter (fun id act world moment member => ?_) steps
    rcases Course.mem_moments_andThen.mp member with isEarly | ⟨after, entered, isLate⟩
    · exact enter _ world moment isEarly
    · have begun : (Demand.enter (.action id act)).deed backend controls world = (none, after) :=
        entered
      exact inContext_actionCourse (history_of_entered begun) moment isLate
  exact all world moment member

end DesktopAutomation.Run
