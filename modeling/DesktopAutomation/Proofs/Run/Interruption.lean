import DesktopAutomation.Proofs.Run.Moments

/-! Two runs of the same steps, the second of which may be interrupted where the first goes on.
Up to a moment in which the second run is interrupted both do the same; behind it the second run does
nothing but drop its shadows. That this is so for the single demands is enough.
-/

namespace DesktopAutomation.Run

variable {σ τ : Type}

/-- One world is left of another when shadows are dropped. -/
structure Unwound (before after : World τ) : Prop where
  device : after.device = before.device
  clock : after.clock = before.clock
  history : after.history = before.history
  bindings : after.environment.bindings = before.environment.bindings

theorem Unwound.refl (world : World τ) : Unwound world world := ⟨rfl, rfl, rfl, rfl⟩

theorem Unwound.unshadow {before after : World τ} (unwound : Unwound before after)
    : Unwound before { after with environment := after.environment.unshadow } :=
  ⟨unwound.device, unwound.clock, unwound.history, unwound.bindings⟩

/-- Two ways to run steps, the worlds of the first of which are told to the second by `lift`. They do
the same on the demands that are not interrupted. What is `alive` holds before each demand of the
first run up to an interruption, and what has `ended` behind each, also behind one that fails.
-/
structure Interruption (backend : InputBackend σ) (controls : Controls)
    (other : InputBackend τ) (others : Controls) (lift : World σ → World τ)
    (alive ended : World σ → Prop) (interrupts : Moment σ → Prop) : Prop where
  environment_lift : ∀ world, (lift world).environment = world.environment
  lift_changed
    : ∀ world environment,
        lift { world with environment := environment }
          = { lift world with environment := environment }
  alive_changed
    : ∀ world environment, alive world → alive { world with environment := environment }
  ended_changed
    : ∀ world environment, ended world → ended { world with environment := environment }
  ended_of_alive : ∀ world, alive world → ended world
  proceeds
    : ∀ world demand,
        alive world
        → ¬interrupts ⟨world, demand⟩
        → let outcome := demand.deed backend controls world
          demand.deed other others (lift world) = (outcome.1, lift outcome.2)
          ∧ ended outcome.2
          ∧ (outcome.1 = none → alive outcome.2)

namespace Interruption
variable {backend : InputBackend σ} {controls : Controls} {other : InputBackend τ}
  {others : Controls} {lift : World σ → World τ} {alive ended : World σ → Prop}
  {interrupts : Moment σ → Prop}

variable (other others lift alive ended interrupts) in
/-- The outcome of an interruptible run beside that of the other, with these moments: it is the same,
or the run was interrupted in one of the moments.
-/
inductive Outcome (moments : List (Moment σ)) (outcome : Option RunError × World σ)
    : Option RunError × World τ → Prop
  | same (isOver : ended outcome.2) (further : outcome.1 = none → alive outcome.2)
    : Outcome moments outcome (outcome.1, lift outcome.2)
  | interrupted {moment : Moment σ} {error : RunError} {after : World τ}
    (member : moment ∈ moments) (isAlive : alive moment.world) (isCut : interrupts moment)
    (fails : (moment.demand.deed other others (lift moment.world)).1 = some error)
    (unwound : Unwound (moment.demand.deed other others (lift moment.world)).2 after)
    : Outcome moments outcome (some error, after)

variable (other others lift alive ended interrupts) in
/-- From each world in which the run is alive, and if all interruptions stop the second run, it has
an outcome beside the first.
-/
def Accompanies (course : Course σ) (deed : Deed τ) : Prop :=
  ∀ world,
    alive world
    → (∀ moment ∈ course.moments world,
        alive moment.world
        → interrupts moment
        → (moment.demand.deed other others (lift moment.world)).1.isSome)
    → Outcome other others lift alive ended interrupts (course.moments world) (course.run world)
        (deed (lift world))

variable (interruption
  : Interruption backend controls other others lift alive ended interrupts)
include interruption

theorem changed (edit : Environment → Environment)
    : Accompanies other others lift alive ended interrupts (.change edit) (Deed.change edit) := by
  intro world isAlive _
  have kept := interruption.alive_changed world (edit world.environment) isAlive
  have same : Deed.change edit (lift world)
      = (none, lift { world with environment := edit world.environment }) := by
    rw [Deed.change, interruption.environment_lift]
    exact congrArg (none, ·) (interruption.lift_changed world _).symm
  rw [same]
  exact .same (interruption.ended_of_alive _ kept) fun _ => kept

theorem asked (demand : Demand)
    : Accompanies other others lift alive ended interrupts (.ask backend controls demand)
        (demand.deed other others) := by
  intro world isAlive stops
  have here : (⟨world, demand⟩ : Moment σ) ∈ (Course.ask backend controls demand).moments world :=
    List.mem_singleton_self _
  by_cases isCut : interrupts ⟨world, demand⟩
  · obtain ⟨error, fails⟩ := Option.isSome_iff_exists.mp (stops _ here isAlive isCut)
    have outcome : demand.deed other others (lift world)
        = (some error, (demand.deed other others (lift world)).2) := Prod.ext fails rfl
    rw [outcome]
    exact .interrupted here isAlive isCut fails (.refl _)
  · obtain ⟨same, isOver, further⟩ := interruption.proceeds world demand isAlive isCut
    rw [same]
    exact .same isOver further

theorem congruence
    : Congruence (Accompanies other others lift alive ended interrupts) where
  done world isAlive _ := .same (interruption.ended_of_alive world isAlive) fun _ => isAlive
  andThen := by
    intro first second deed next firstDoes secondDoes world isAlive stops
    have early := firstDoes world isAlive fun moment member =>
      stops moment (Course.mem_moments_andThen.mpr (.inl member))
    have runs : (first.andThen second).run world = first.run.andThen second.run world := rfl
    rw [runs, Deed.andThen, Deed.andThen]
    cases ran : first.run world with
    | mk error? after =>
        rw [ran] at early
        generalize deed (lift world) = outcome at early ⊢
        cases early with
        | same isOver further =>
            cases error? with
            | some error => exact .same isOver (by simp)
            | none =>
                have late := secondDoes after (further rfl) fun moment member =>
                  stops moment (Course.mem_moments_andThen.mpr (.inr ⟨after, ran, member⟩))
                simp only
                generalize next (lift after) = outcome at late ⊢
                cases late with
                | same isOver further => exact .same isOver further
                | interrupted member isAlive isCut fails unwound =>
                    exact .interrupted (Course.mem_moments_andThen.mpr (.inr ⟨after, ran, member⟩))
                      isAlive isCut fails unwound
        | interrupted member isAlive isCut fails unwound =>
            exact .interrupted (Course.mem_moments_andThen.mpr (.inl member)) isAlive isCut fails
              unwound
  reading := by
    intro α read use deed each world isAlive stops
    have runs : (Course.reading read use).run world
        = Deed.reading read (fun value => (use value).run) world := rfl
    rw [runs, Deed.reading, Deed.reading, interruption.environment_lift]
    cases found : read world.environment with
    | error error => exact .same (interruption.ended_of_alive world isAlive) (by simp)
    | ok value =>
        have inner := each value world isAlive fun moment member =>
          stops moment (Course.mem_moments_reading.mpr ⟨value, found, member⟩)
        simp only
        generalize deed value (lift world) = outcome at inner ⊢
        cases inner with
        | same isOver further => exact .same isOver further
        | interrupted member isAlive isCut fails unwound =>
            exact .interrupted (Course.mem_moments_reading.mpr ⟨value, found, member⟩) isAlive
              isCut fails unwound
  shadowing := by
    intro course deed name binding does world isAlive stops
    have inner := does _ (interruption.alive_changed world _ isAlive) stops
    have runs : (Course.shadowing name binding course).run world
        = Deed.shadowing name binding course.run world := rfl
    rw [runs, Deed.shadowing, Deed.shadowing, interruption.environment_lift,
      ← interruption.lift_changed]
    generalize deed (lift _) = outcome at inner ⊢
    cases inner with
    | same isOver further =>
        have dropped := interruption.lift_changed (course.run
          { world with environment := world.environment.shadow name binding }).2
        simp only [interruption.environment_lift, ← dropped]
        refine .same (interruption.ended_changed _ _ isOver) ?_
        exact fun finished => interruption.alive_changed _ _ (further finished)
    | interrupted member isAlive isCut fails unwound =>
        exact .interrupted member isAlive isCut fails unwound.unshadow

/-- A run of steps that may be interrupted ends as the other, or in a moment of it. -/
theorem runSteps (steps : List Step) {world : World σ} (isAlive : alive world)
    (stops
      : ∀ moment ∈ moments backend controls steps world,
          alive moment.world
          → interrupts moment
          → (moment.demand.deed other others (lift moment.world)).1.isSome)
    : Outcome other others lift alive ended interrupts (moments backend controls steps world)
        (runSteps backend controls steps world) (runSteps other others steps (lift world)) := by
  have accompanies := interruption.congruence.steps_of_demands interruption.changed
    interruption.asked steps
  have outcome := accompanies world isAlive stops
  rw [course_run] at outcome
  exact outcome

end Interruption

end DesktopAutomation.Run
