import DesktopAutomation.Proofs.Run.Relation

/-! The course of a run: the deed that runs, together with the moments in which it asks something of
the world around it. Between two moments only variables change. Courses are put together in the same
ways as deeds, so what these ways keep holds for every course of steps.
-/

namespace DesktopAutomation.Run

variable {σ τ : Type}

-----------------------------------------------------------------------------------------
-- Moments
-----------------------------------------------------------------------------------------

/-- What a run asks of the world around it: to start a step behind the wait before it, to let time
pass, or to take input for a step.
-/
inductive Demand
  | enter (step : Step)
  | sleep (time : Nat)
  | send (id : StepId) (dispatch : Dispatch)

/-- What is done on a demand. -/
def Demand.deed (backend : InputBackend σ) (controls : Controls) : Demand → Deed σ
  | .enter step => (Deed.wait controls controls.delay).andThen (Deed.start step)
  | .sleep time => Deed.wait controls time
  | .send id dispatch => Deed.send backend id dispatch

/-- The length of the wait that a demand begins with, if it does, in a run with a delay. -/
def Demand.length? (delay : Nat) : Demand → Option Nat
  | .enter _ => some delay
  | .sleep time => some time
  | .send .. => none

/-- A moment of a run: the world in it, and what the run asks of this world. -/
structure Moment (σ : Type) where
  world : World σ
  demand : Demand

-----------------------------------------------------------------------------------------
-- Courses
-----------------------------------------------------------------------------------------

/-- A deed, and the moments it goes through from each world, the first first. -/
structure Course (σ : Type) where
  run : Deed σ
  moments : World σ → List (Moment σ)

namespace Course

def done : Course σ := ⟨Deed.done, fun _ => []⟩

def change (edit : Environment → Environment) : Course σ := ⟨Deed.change edit, fun _ => []⟩

/-- The course of a demand is the one moment in which it is made. -/
def ask (backend : InputBackend σ) (controls : Controls) (demand : Demand) : Course σ :=
  ⟨demand.deed backend controls, fun world => [⟨world, demand⟩]⟩

/-- The second course has moments only if the first does not stop the run. -/
def andThen (first second : Course σ) : Course σ where
  run := first.run.andThen second.run
  moments world :=
    first.moments world
      ++ match first.run world with
        | (none, after) => second.moments after
        | _ => []

def forEach {α : Type} (course : α → Course σ) : List α → Course σ
  | [] => done
  | item :: rest => (course item).andThen (forEach course rest)

def reading {α : Type} (read : Environment → Except RunError α) (use : α → Course σ)
    : Course σ where
  run := Deed.reading read fun value => (use value).run
  moments world :=
    match read world.environment with
    | .ok value => (use value).moments world
    | .error _ => []

def shadowing (name : String) (binding : Variable) (course : Course σ) : Course σ where
  run := Deed.shadowing name binding course.run
  moments world :=
    course.moments { world with environment := world.environment.shadow name binding }

theorem mem_moments_andThen {first second : Course σ} {world : World σ} {moment : Moment σ}
    : moment ∈ (first.andThen second).moments world
      ↔ moment ∈ first.moments world
        ∨ ∃ after, first.run world = (none, after) ∧ moment ∈ second.moments after := by
  rw [andThen, List.mem_append]
  cases first.run world with
  | mk error? after => cases error? <;> simp

theorem mem_moments_reading {α : Type} {read : Environment → Except RunError α}
    {use : α → Course σ} {world : World σ} {moment : Moment σ}
    : moment ∈ (reading read use).moments world
      ↔ ∃ value, read world.environment = .ok value ∧ moment ∈ (use value).moments world := by
  simp only [reading]
  cases read world.environment <;> simp

end Course

-----------------------------------------------------------------------------------------
-- The courses of steps
-----------------------------------------------------------------------------------------

section
variable (backend : InputBackend σ) (controls : Controls)
open Course

/-- The course of an action. -/
def actionCourse (id : StepId) : Action → Course σ
  | .move target => ask backend controls (.send id (.move target))
  | .click button => ask backend controls (.send id (.click button))
  | .pressKeyboard combination =>
    ask backend controls (.send id (.keys combination combination.usesUnicode))
  | .write text readFrom =>
    reading (readInput id text readFrom) fun typed =>
      forEach (fun dispatch => ask backend controls (.send id dispatch)) (typing typed)
  | .parseString text readFrom divider saveAs =>
    reading (readInput id text readFrom) fun input =>
      change fun environment => environment.set saveAs (.ofTexts id (Text.split input divider))
  | .sleep time => ask backend controls (.sleep time.toNat)
  | .setVariable saveAs value =>
    change fun environment => environment.set saveAs (.ofText id value)
  | .destructVariable readFrom index saveAs =>
    reading (readList id readFrom) fun items =>
      change fun environment =>
        environment.set saveAs ⟨id, .value, (items[index.toNat]?).getD .null⟩

mutual

/-- The course of a step. -/
def stepCourse : Step → Course σ
  | .action id act => actionCourse backend controls id act
  | .statement id (.cycle iterable saveItemsAs) body =>
    reading (readList id iterable) fun items =>
      forEach (fun item => shadowing saveItemsAs ⟨id, .value, item⟩ (course body)) items
  | .statement id (.conditional condition) body =>
    reading (readCondition id condition) fun holds => if holds then course body else done

/-- The course of steps that are done one after the other. -/
def course : List Step → Course σ
  | [] => done
  | step :: rest =>
    ((ask backend controls (.enter step)).andThen (stepCourse step)).andThen (course rest)

end

/-- The moments of a run of steps. -/
def moments (steps : List Step) (world : World σ) : List (Moment σ) :=
  (course backend controls steps).moments world

end

-----------------------------------------------------------------------------------------
-- What holds for every course
-----------------------------------------------------------------------------------------

theorem runSteps_cons (backend : InputBackend σ) (controls : Controls) (step : Step)
    (rest : List Step)
    : runSteps backend controls (step :: rest)
      = (((Demand.enter step).deed backend controls).andThen
          (runStep backend controls step)).andThen (runSteps backend controls rest) := by
  rw [runSteps, Demand.deed, Deed.andThen_assoc, Deed.andThen_assoc]

/-- A relation between courses and deeds that stays when both are put together in the same way. -/
structure Congruence (related : Course σ → Deed τ → Prop) : Prop where
  done : related .done Deed.done
  andThen
    : ∀ {first second deed next},
        related first deed → related second next → related (first.andThen second) (deed.andThen next)
  reading
    : ∀ {α : Type} {read : Environment → Except RunError α} {use deed},
        (∀ value, related (use value) (deed value))
        → related (.reading read use) (Deed.reading read deed)
  shadowing
    : ∀ {course deed} name binding,
        related course deed
        → related (.shadowing name binding course) (Deed.shadowing name binding deed)

namespace Congruence
variable {related : Course σ → Deed τ → Prop} {backend : InputBackend σ} {controls : Controls}
  {other : InputBackend τ} {others : Controls}

theorem forEach (congruence : Congruence related) {α : Type} {course : α → Course σ}
    {deed : α → Deed τ} (each : ∀ item, related (course item) (deed item)) (items : List α)
    : related (.forEach course items) (Deed.forEach deed items) := by
  induction items with
  | nil => exact congruence.done
  | cons item rest ih => exact congruence.andThen (each item) ih

theorem action (congruence : Congruence related)
    (change : ∀ edit, related (.change edit) (Deed.change edit))
    (ask : ∀ demand, related (.ask backend controls demand) (demand.deed other others))
    (id : StepId) (act : Action)
    : related (actionCourse backend controls id act) (runAction other others id act) := by
  cases act with
  | move target => exact ask (.send id (.move target))
  | click button => exact ask (.send id (.click button))
  | pressKeyboard combination => exact ask (.send id (.keys combination combination.usesUnicode))
  | write text readFrom =>
      exact congruence.reading fun typed =>
        congruence.forEach (fun dispatch => ask (.send id dispatch)) _
  | parseString text readFrom divider saveAs => exact congruence.reading fun _ => change _
  | sleep time => exact ask (.sleep time.toNat)
  | setVariable saveAs value => exact change _
  | destructVariable readFrom index saveAs => exact congruence.reading fun _ => change _

/-- The courses of steps are related to runs if those of actions are, each with the start of its
step before it; by induction over the nested steps.
-/
theorem steps (congruence : Congruence related)
    (enter
      : ∀ step,
          related (.ask backend controls (.enter step)) ((Demand.enter step).deed other others))
    (perform
      : ∀ id act,
          related
            ((Course.ask backend controls (.enter (.action id act))).andThen
              (actionCourse backend controls id act))
            (((Demand.enter (.action id act)).deed other others).andThen
              (runAction other others id act)))
    (steps : List Step)
    : related (course backend controls steps) (runSteps other others steps) := by
  induction steps using steps_induction with
  | nil =>
      rw [course, runSteps]
      exact congruence.done
  | action id act rest ih =>
      rw [course, runSteps_cons, stepCourse, runStep]
      exact congruence.andThen (perform id act) ih
  | statement id stmt body rest bodyIH restIH =>
      rw [course, runSteps_cons]
      refine congruence.andThen (congruence.andThen (enter _) ?_) restIH
      cases stmt with
      | cycle iterable saveItemsAs =>
          rw [stepCourse, runStep]
          exact congruence.reading fun items =>
            congruence.forEach (fun _ => congruence.shadowing _ _ bodyIH) items
      | conditional condition =>
          rw [stepCourse, runStep]
          refine congruence.reading fun holds => ?_
          split
          · exact bodyIH
          · exact congruence.done

/-- The courses of steps are related to runs if those of changes and demands are. -/
theorem steps_of_demands (congruence : Congruence related)
    (change : ∀ edit, related (.change edit) (Deed.change edit))
    (ask : ∀ demand, related (.ask backend controls demand) (demand.deed other others))
    (steps : List Step)
    : related (course backend controls steps) (runSteps other others steps) :=
  congruence.steps (fun _ => ask _)
    (fun id act => congruence.andThen (ask _) (congruence.action change ask id act)) steps

end Congruence

/-- A course of steps runs the steps. -/
theorem course_run (backend : InputBackend σ) (controls : Controls) (steps : List Step)
    : (course backend controls steps).run = runSteps backend controls steps := by
  have congruence : Congruence fun (course : Course σ) deed => course.run = deed := {
    done := rfl
    andThen := by
      rintro first second _ _ rfl rfl
      rfl
    reading := fun {_ _ _ deed} same => by
      obtain rfl : (fun value => _) = deed := funext same
      rfl
    shadowing := by
      rintro course _ name binding rfl
      rfl
  }
  exact congruence.steps_of_demands (fun _ => rfl) (fun _ => rfl) steps

end DesktopAutomation.Run
