import DesktopAutomation.Proofs.Run.Calls
import DesktopAutomation.Proofs.Step.Usage

/-! Two uncancelled runs side by side that differ in their times and in variables they do not use. A
relation between environments that reads, writes and shadows stay in holds across both runs; and the
device, what is sent and the error are the same in both.
-/

namespace DesktopAutomation.Run
open Deed

variable {σ : Type}

-----------------------------------------------------------------------------------------
-- Matching environments
-----------------------------------------------------------------------------------------

/-- A relation between environments, each under a number of shadows that were added since the start.
It tells the variables of some names, writing these names in both keeps it, and so do shadows.
-/
structure Matching (used : String → Prop) (agree : Nat → Environment → Environment → Prop)
    : Prop where
  get?
    : ∀ {depth environment other name},
        agree depth environment other → used name → other.get? name = environment.get? name
  set
    : ∀ {depth environment other name} binding,
        agree depth environment other
        → used name
        → agree depth (environment.set name binding) (other.set name binding)
  shadow
    : ∀ {depth environment other} name binding,
        agree depth environment other
        → agree (depth + 1) (environment.shadow name binding) (other.shadow name binding)
  unshadow
    : ∀ {depth environment other},
        agree (depth + 1) environment other → agree depth environment.unshadow other.unshadow

section
variable {id : StepId} {environment other : Environment}

/-- A variable is looked up alike where the name has the same variable. -/
theorem lookUp_of_get? {name : String} (same : other.get? name = environment.get? name)
    : lookUp id name other = lookUp id name environment := by
  rw [lookUp, lookUp, same]

/-- A list is read alike where the name has the same variable. -/
theorem readList_of_get? {name : String} (same : other.get? name = environment.get? name)
    : readList id name other = readList id name environment := by
  rw [readList, readList, lookUp_of_get? same]

/-- The input of a step is read alike where the name that it is read from has the same variable, if
one is asked for.
-/
theorem readInput_of_get? {text readFrom : String}
    (same : text = "" → other.get? readFrom = environment.get? readFrom)
    : readInput id text readFrom other = readInput id text readFrom environment := by
  rw [readInput, readInput]
  split
  · next absent => rw [readText, readText, lookUp_of_get? (same absent)]
  · rfl

/-- A side has the same value where the name that it uses has the same variable. -/
theorem readSide_of_get? {side : ConditionSide}
    (same : ∀ name ∈ side.usedName?, other.get? name = environment.get? name)
    : readSide id side other = readSide id side environment := by
  cases side with
  | literal text => rfl
  | «variable» name => rw [readSide, readSide, lookUp_of_get? (same name rfl)]

/-- A condition holds alike where the names that its sides use have the same variables. -/
theorem readCondition_of_get? {condition : Condition}
    (left : ∀ name ∈ condition.left.usedName?, other.get? name = environment.get? name)
    (right : ∀ name ∈ condition.right.usedName?, other.get? name = environment.get? name)
    : readCondition id condition other = readCondition id condition environment := by
  rw [readCondition, readCondition, readSide_of_get? left, readSide_of_get? right]

end

-----------------------------------------------------------------------------------------
-- Deeds in lockstep
-----------------------------------------------------------------------------------------

/-- Worlds with the same device, in which the same was sent and whose environments agree. -/
structure Matched (agree : Environment → Environment → Prop) (world other : World σ) : Prop where
  device : other.device = world.device
  sent : sent other.history = sent world.history
  environment : agree world.environment other.environment

/-- Outcomes with the same error and worlds that match. -/
structure Alike (agree : Environment → Environment → Prop)
    (outcome other : Option RunError × World σ) : Prop where
  error : other.1 = outcome.1
  world : Matched agree outcome.2 other.2

/-- From worlds that match, two deeds have outcomes that are alike. -/
def Deed.Lockstep (agree : Environment → Environment → Prop) (deed other : Deed σ) : Prop :=
  ∀ world otherWorld, Matched agree world otherWorld → Alike agree (deed world) (other otherWorld)

/-- Two runs end with the same error, if any, have sent the same, and leave the same device and
variables.
-/
structure Report.SameEffect (report other : Report σ) : Prop where
  error : other.error? = report.error?
  sent : Run.sent other.events = Run.sent report.events
  device : other.world.device = report.world.device
  environment : other.world.environment = report.world.environment

/-- Runs with outcomes that are alike have the same effect. -/
theorem Alike.sameEffect {backend otherBackend : InputBackend σ} {controls others : Controls}
    {steps otherSteps : List Step} {device otherDevice : σ}
    {environment otherEnvironment : Environment}
    (alike
      : Alike Eq (runSteps backend controls steps (.initial device environment))
          (runSteps otherBackend others otherSteps (.initial otherDevice otherEnvironment)))
    : (play backend controls steps device environment).SameEffect
        (play otherBackend others otherSteps otherDevice otherEnvironment) where
  error := alike.error
  sent := by
    rw [Report.events, Report.events, Run.sent, Run.sent, List.filterMap_reverse,
      List.filterMap_reverse]
    exact congrArg List.reverse alike.world.sent
  device := alike.world.device
  environment := alike.world.environment.symm

/-- Behind outcomes that are alike, deeds in lockstep have outcomes that are alike. -/
theorem Alike.andThen {agree : Environment → Environment → Prop}
    {first second otherFirst otherSecond : Deed σ} {world otherWorld : World σ}
    (alike : Alike agree (first world) (otherFirst otherWorld))
    (behind : second.Lockstep agree otherSecond)
    : Alike agree (first.andThen second world) (otherFirst.andThen otherSecond otherWorld) := by
  rw [Deed.andThen, Deed.andThen]
  generalize first world = outcome at alike ⊢
  generalize otherFirst otherWorld = otherOutcome at alike ⊢
  obtain ⟨error?, after⟩ := outcome
  obtain ⟨other?, otherAfter⟩ := otherOutcome
  obtain ⟨rfl, matched⟩ := alike
  cases other? with
  | none => exact behind after otherAfter matched
  | some error => exact ⟨rfl, matched⟩

namespace Deed.Lockstep
variable {agree : Environment → Environment → Prop} {backend : InputBackend σ}

theorem done : (done : Deed σ).Lockstep agree done := fun _ _ matched => ⟨rfl, matched⟩

/-- Two deeds in a row are in lockstep if each one is. -/
theorem andThen {first second otherFirst otherSecond : Deed σ}
    (early : first.Lockstep agree otherFirst) (late : second.Lockstep agree otherSecond)
    : (first.andThen second).Lockstep agree (otherFirst.andThen otherSecond) :=
  fun world otherWorld matched => (early world otherWorld matched).andThen late

/-- Any number of deeds in a row are in lockstep if each one is, by induction over the items. -/
theorem forEach {α : Type} {deed other : α → Deed σ}
    (each : ∀ item, (deed item).Lockstep agree (other item)) (items : List α)
    : (forEach deed items).Lockstep agree (forEach other items) := by
  induction items with
  | nil => exact done
  | cons item rest ih => exact (each item).andThen ih

/-- What is read alike is used in lockstep. -/
theorem reading {α : Type} {read : Environment → Except RunError α} {use other : α → Deed σ}
    (same
      : ∀ environment otherEnvironment,
          agree environment otherEnvironment → read otherEnvironment = read environment)
    (uses : ∀ value, (use value).Lockstep agree (other value))
    : (reading read use).Lockstep agree (reading read other) := by
  intro world otherWorld matched
  rw [Deed.reading, Deed.reading, same _ _ matched.environment]
  split
  · next value _ => exact uses value world otherWorld matched
  · exact ⟨rfl, matched⟩

/-- Changes that keep environments in agreement are in lockstep. -/
theorem change {edit : Environment → Environment}
    (kept : ∀ environment other, agree environment other → agree (edit environment) (edit other))
    : (change edit : Deed σ).Lockstep agree (change edit) :=
  fun _ _ matched => ⟨rfl, matched.device, matched.sent, kept _ _ matched.environment⟩

/-- Sending the same is in lockstep, for the devices are the same. -/
theorem send (id : StepId) (dispatch : Dispatch)
    : (send backend id dispatch).Lockstep agree (send backend id dispatch) := by
  intro world otherWorld matched
  rw [Deed.send, Deed.send, matched.device]
  exact ⟨rfl, rfl, congrArg (dispatch :: ·) matched.sent, matched.environment⟩

/-- Noting a step sends nothing, so different steps may be noted. -/
theorem start (step other : Step) : (start step : Deed σ).Lockstep agree (start other) :=
  fun _ _ matched => ⟨rfl, matched.device, matched.sent, matched.environment⟩

/-- Uncancelled runs may wait for different times. -/
theorem wait (delay otherDelay time otherTime : Nat)
    : (wait (.steady delay) time : Deed σ).Lockstep agree
        (Deed.wait (.steady otherDelay) otherTime) := by
  intro world otherWorld matched
  rw [wait_steady, wait_steady]
  exact ⟨rfl, matched.device, matched.sent, matched.environment⟩

/-- What is done in lockstep under a further shadow is so where environments agree without it. -/
theorem shadowing {within : Environment → Environment → Prop} {deed other : Deed σ}
    (inner : deed.Lockstep within other) (name : String) (binding : Variable)
    (begins
      : ∀ environment otherEnvironment,
          agree environment otherEnvironment
          → within (environment.shadow name binding) (otherEnvironment.shadow name binding))
    (ends
      : ∀ environment otherEnvironment,
          within environment otherEnvironment
          → agree environment.unshadow otherEnvironment.unshadow)
    : (shadowing name binding deed).Lockstep agree (Deed.shadowing name binding other) := by
  intro world otherWorld matched
  obtain ⟨error, device, sent, environment⟩ := inner
    { world with environment := world.environment.shadow name binding }
    { otherWorld with environment := otherWorld.environment.shadow name binding }
    ⟨matched.device, matched.sent, begins _ _ matched.environment⟩
  exact ⟨error, device, sent, ends _ _ environment⟩

end Deed.Lockstep

-----------------------------------------------------------------------------------------
-- Runs in lockstep
-----------------------------------------------------------------------------------------

namespace Matching
variable {used : String → Prop} {agree : Nat → Environment → Environment → Prop}
  {backend : InputBackend σ} {delay otherDelay : Nat}

/-- Actions that differ in the length of a sleep alone are in lockstep if the names they use are
told alike, case by case.
-/
theorem runAction (matching : Matching used agree) {act other : Action}
    (same : act.untimed = other.untimed) (uses : ∀ name ∈ act.usedNames, used name)
    (id : StepId) (depth : Nat)
    : (runAction backend (.steady delay) id act).Lockstep (agree depth)
        (runAction backend (.steady otherDelay) id other) := by
  obtain rfl | ⟨time, otherTime, rfl, rfl⟩ := Action.eq_or_sleep_of_untimed same
  · cases act with
    | move target => exact .send id _
    | click button => exact .send id _
    | pressKeyboard combination => exact .send id _
    | write text readFrom =>
        refine .reading (fun _ _ agrees => readInput_of_get? fun absent => ?_) fun typed =>
          .forEach (fun dispatch => .send id dispatch) _
        exact matching.get? agrees (uses _ (by simp [Action.usedNames, absent]))
    | parseString text readFrom divider saveAs =>
        refine .reading (fun _ _ agrees => readInput_of_get? fun absent => ?_) fun input =>
          .change fun _ _ agrees => matching.set _ agrees (uses _ (by simp [Action.usedNames]))
        exact matching.get? agrees (uses _ (by simp [Action.usedNames, absent]))
    | sleep time => exact .wait _ _ _ _
    | setVariable saveAs value =>
        exact .change fun _ _ agrees => matching.set _ agrees (uses _ List.mem_cons_self)
    | destructVariable readFrom index saveAs =>
        refine .reading (fun _ _ agrees => readList_of_get? ?_) fun items =>
          .change fun _ _ agrees => matching.set _ agrees (uses _ (by simp [Action.usedNames]))
        exact matching.get? agrees (uses _ List.mem_cons_self)
  · exact .wait _ _ _ _

/-- Runs of steps that differ in times only go in lockstep, whatever shadows they start under; by
induction over the nested steps.
-/
theorem runSteps (matching : Matching used agree) {steps others : List Step}
    (same : untimedAll steps = untimedAll others)
    (uses : ∀ step ∈ listingOf steps, ∀ name ∈ step.usedNames, used name) (depth : Nat)
    : (runSteps backend (.steady delay) steps).Lockstep (agree depth)
        (runSteps backend (.steady otherDelay) others) := by
  have behindWait {step other : Step} {rest otherRest : List Step} {depth : Nat}
      (stepGoes
        : (runStep backend (.steady delay) step).Lockstep (agree depth)
            (runStep backend (.steady otherDelay) other))
      (restGoes
        : (Run.runSteps backend (.steady delay) rest).Lockstep (agree depth)
            (Run.runSteps backend (.steady otherDelay) otherRest))
      : (Run.runSteps backend (.steady delay) (step :: rest)).Lockstep (agree depth)
          (Run.runSteps backend (.steady otherDelay) (other :: otherRest)) := by
    rw [Run.runSteps, Run.runSteps]
    exact (Lockstep.wait _ _ _ _).andThen ((Lockstep.start _ _).andThen (stepGoes.andThen restGoes))
  induction steps using steps_induction generalizing others depth with
  | nil =>
      obtain rfl : others = [] := by cases others <;> simp_all [untimedAll]
      rw [Run.runSteps, Run.runSteps]
      exact .done
  | action id act rest ih =>
      obtain ⟨other, otherRest, rfl, sameStep, sameRest⟩ := eq_cons_of_untimedAll same
      obtain ⟨otherAct, rfl, sameAct⟩ := Step.eq_action_of_untimed sameStep
      rw [listingOf_action] at uses
      obtain ⟨usesHere, usesBehind⟩ := List.forall_mem_cons.mp uses
      refine behindWait ?_ (ih sameRest usesBehind depth)
      rw [runStep, runStep]
      exact matching.runAction sameAct usesHere id depth
  | statement id stmt body rest bodyIH restIH =>
      obtain ⟨other, otherRest, rfl, sameStep, sameRest⟩ := eq_cons_of_untimedAll same
      obtain ⟨otherBody, rfl, sameBody⟩ := Step.eq_statement_of_untimed sameStep
      rw [listingOf_statement] at uses
      obtain ⟨usesHere, usesWithin⟩ := List.forall_mem_cons.mp uses
      obtain ⟨usesBody, usesBehind⟩ := List.forall_mem_append.mp usesWithin
      refine behindWait ?_ (restIH sameRest usesBehind depth)
      cases stmt with
      | cycle iterable saveItemsAs =>
          rw [runStep, runStep]
          refine .reading (fun _ _ agrees => readList_of_get? ?_) fun items => .forEach ?_ items
          · exact matching.get? agrees (usesHere _ List.mem_cons_self)
          · intro item
            exact (bodyIH sameBody usesBody (depth + 1)).shadowing saveItemsAs _
              (fun _ _ => matching.shadow _ _) fun _ _ => matching.unshadow
      | conditional condition =>
          rw [runStep, runStep]
          refine .reading (fun _ _ agrees => readCondition_of_get? ?_ ?_) fun holds => ?_
          · intro name isLeft
            exact matching.get? agrees (usesHere name (by simp_all [Step.usedNames]))
          · intro name isRight
            exact matching.get? agrees (usesHere name (by simp_all [Step.usedNames]))
          · split
            · exact bodyIH sameBody usesBody depth
            · exact .done

end Matching

/-- Runs from the same environment that differ in times only end in the same environment. -/
theorem lockstep_of_untimed {backend : InputBackend σ} {delay otherDelay : Nat}
    {steps others : List Step} (same : untimedAll steps = untimedAll others)
    : (runSteps backend (.steady delay) steps).Lockstep Eq
        (runSteps backend (.steady otherDelay) others) := by
  -- any names may be used in equal environments
  have matching : Matching (fun _ => True) fun _ => Eq := {
    get? := fun same _ => same ▸ rfl
    set := fun _ same _ => same ▸ rfl
    shadow := fun _ _ same => same ▸ rfl
    unshadow := fun same => same ▸ rfl
  }
  exact matching.runSteps same (fun _ _ _ _ => trivial) 0

end DesktopAutomation.Run
