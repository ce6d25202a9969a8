import DesktopAutomation.Run.Basic
import DesktopAutomation.Proofs.Backend.Virtual
import DesktopAutomation.Proofs.Tree.Accounting

/-! Relations between the world before and the world behind a run.
A relation that the single deeds stay in, and that passes through shadows, holds across every run,
however the run ends; the induction over nested steps is done here once.
-/

namespace DesktopAutomation.Run
open Deed

variable {σ : Type} {related : World σ → World σ → Prop}

/-- Three deeds in a row are the same however they are grouped. -/
theorem Deed.andThen_assoc (first second third : Deed σ)
    : (first.andThen second).andThen third = first.andThen (second.andThen third) := by
  funext world
  simp only [Deed.andThen]
  cases first world with
  | mk error? after => cases error? <;> rfl

/-- A relation between worlds that may be followed through any number of deeds. -/
structure Chain (related : World σ → World σ → Prop) : Prop where
  refl : ∀ world, related world world
  trans : ∀ {first second third}, related first second → related second third → related first third

/-- A relation between worlds that everything a step does to a world stays in, with input sent to a
backend. What happens while a name is shadowed is related once the shadow is dropped.
-/
structure Relation (backend : InputBackend σ) (related : World σ → World σ → Prop) : Prop
    extends Chain related where
  started
    : ∀ world step, related world { world with history := .started step :: world.history }
  waited : ∀ world time, related world (world.pass time)
  called
    : ∀ world dispatch,
        related world
          { world with
            device := (backend.send dispatch world.device).2
            history := .called dispatch :: world.history }
  set
    : ∀ world name binding,
        related world { world with environment := world.environment.set name binding }
  shadowed
    : ∀ world name binding after,
        related { world with environment := world.environment.shadow name binding } after
        → related world { after with environment := after.environment.unshadow }

/-- What a step may bind the name to that it saves its result as: a variable of its own, with a list
of texts if it parses a text, else with one value.
-/
inductive Binds : Step → String → Variable → Prop
  | parsed {id text readFrom divider saveAs} (pieces : List String)
    : Binds (.action id (.parseString text readFrom divider saveAs)) saveAs (.ofTexts id pieces)
  | assigned {id saveAs value}
    : Binds (.action id (.setVariable saveAs value)) saveAs (.ofText id value)
  | picked {id readFrom index saveAs} (item : VariableValue)
    : Binds (.action id (.destructVariable readFrom index saveAs)) saveAs ⟨id, .value, item⟩

/-- A relation like this in which names are only bound as they may be. -/
structure BindingRelation (mayBind : String → Variable → Prop) (backend : InputBackend σ)
    (related : World σ → World σ → Prop) : Prop extends Chain related where
  started
    : ∀ world step, related world { world with history := .started step :: world.history }
  waited : ∀ world time, related world (world.pass time)
  called
    : ∀ world dispatch,
        related world
          { world with
            device := (backend.send dispatch world.device).2
            history := .called dispatch :: world.history }
  set
    : ∀ world name binding,
        mayBind name binding
        → related world { world with environment := world.environment.set name binding }
  shadowed
    : ∀ world name binding after,
        related { world with environment := world.environment.shadow name binding } after
        → related world { after with environment := after.environment.unshadow }

/-- However a deed ends, the worlds before and behind it are related. -/
def Deed.Within (related : World σ → World σ → Prop) (deed : Deed σ) : Prop :=
  ∀ world, related world (deed world).2

namespace Chain

theorem done (chain : Chain related) : (done : Deed σ).Within related := chain.refl

/-- Two deeds in a row stay within a relation that chains if each one does. -/
theorem andThen (chain : Chain related) {first second : Deed σ}
    (firstWithin : first.Within related) (secondWithin : second.Within related)
    : (first.andThen second).Within related := by
  intro world
  have within := firstWithin world
  rw [Deed.andThen]
  split
  · next after ended =>
      rw [ended] at within
      exact chain.trans within (secondWithin after)
  · exact within

/-- Any number of deeds in a row stay within it if each one does, by induction over the items. -/
theorem forEach (chain : Chain related) {α : Type} {deed : α → Deed σ}
    (within : ∀ item, (deed item).Within related) (items : List α)
    : (forEach deed items).Within related := by
  induction items with
  | nil => exact chain.done
  | cons item rest ih => exact chain.andThen (within item) ih

/-- What is done with a value that is read stays within it for every value; a failure to read
changes nothing.
-/
theorem reading (chain : Chain related) {α : Type}
    {read : Environment → Except RunError α} {use : α → Deed σ}
    (within : ∀ value, (use value).Within related)
    : (reading read use).Within related := by
  intro world
  rw [Deed.reading]
  split
  · next value _ => exact within value world
  · exact chain.refl world

end Chain

namespace BindingRelation
variable {mayBind : String → Variable → Prop} {backend : InputBackend σ}

/-- What is done below a shadow stays within a relation for bindings. -/
theorem shadowing (relation : BindingRelation mayBind backend related) {deed : Deed σ}
    (within : deed.Within related) (name : String) (binding : Variable)
    : (shadowing name binding deed).Within related :=
  fun _ => relation.shadowed _ name binding _ (within _)

/-- Sending input stays within a relation for bindings. -/
theorem send (relation : BindingRelation mayBind backend related) (id : StepId)
    (dispatch : Dispatch)
    : (send backend id dispatch).Within related :=
  fun world => relation.called world dispatch

/-- A wait stays within a relation for bindings, cut short or not. -/
theorem wait (relation : BindingRelation mayBind backend related) (controls : Controls)
    (time : Nat)
    : (wait (σ := σ) controls time).Within related := by
  intro world
  rw [Deed.wait]
  split
  · exact relation.refl world
  · split
    · exact relation.waited world _
    · exact relation.waited world time

/-- An action stays within a relation for the names that it binds, case by case. -/
theorem runAction (relation : BindingRelation mayBind backend related) (controls : Controls)
    {id : StepId} {act : Action}
    (binds : ∀ name binding, Binds (.action id act) name binding → mayBind name binding)
    : (runAction backend controls id act).Within related := by
  cases act with
  | move target => exact relation.send id _
  | click button => exact relation.send id _
  | pressKeyboard combination => exact relation.send id _
  | write text readFrom =>
      exact relation.reading fun typed => relation.forEach (relation.send id) _
  | parseString text readFrom divider saveAs =>
      exact relation.reading fun _ world => relation.set world _ _ (binds _ _ (.parsed _))
  | sleep time => exact relation.wait controls _
  | setVariable saveAs value => exact fun world => relation.set world _ _ (binds _ _ .assigned)
  | destructVariable readFrom index saveAs =>
      exact relation.reading fun _ world => relation.set world _ _ (binds _ _ (.picked _))

/-- Every run of steps that bind names as they may be bound stays in the relation, by induction over
the nested steps.
-/
theorem runSteps (relation : BindingRelation mayBind backend related) (controls : Controls)
    {steps : List Step}
    (binds
      : ∀ step ∈ listingOf steps, ∀ name binding,
          Binds step name binding → mayBind name binding)
    : (runSteps backend controls steps).Within related := by
  have behindWait {step : Step} {rest : List Step}
      (stepWithin : (runStep backend controls step).Within related)
      (restWithin : (Run.runSteps backend controls rest).Within related)
      : (Run.runSteps backend controls (step :: rest)).Within related := by
    rw [Run.runSteps]
    refine relation.andThen (relation.wait controls _) (relation.andThen ?_
      (relation.andThen stepWithin restWithin))
    exact fun world => relation.started world step
  induction steps using steps_induction with
  | nil =>
      rw [Run.runSteps]
      exact relation.done
  | action id act rest ih =>
      rw [listingOf_action] at binds
      obtain ⟨bindsHere, bindsBehind⟩ := List.forall_mem_cons.mp binds
      refine behindWait ?_ (ih bindsBehind)
      rw [runStep]
      exact relation.runAction controls bindsHere
  | statement id stmt body rest bodyIH restIH =>
      rw [listingOf_statement] at binds
      obtain ⟨bindsBody, bindsBehind⟩ :=
        List.forall_mem_append.mp (List.forall_mem_cons.mp binds).2
      have bodyWithin := bodyIH bindsBody
      refine behindWait ?_ (restIH bindsBehind)
      cases stmt with
      | cycle iterable saveItemsAs =>
          rw [runStep]
          exact relation.reading fun items =>
            relation.forEach (fun _ => relation.shadowing bodyWithin _ _) items
      | conditional condition =>
          rw [runStep]
          refine relation.reading fun holds => ?_
          split
          · exact bodyWithin
          · exact relation.done

end BindingRelation

/-- Every run stays in a relation that all names may be bound in. -/
theorem Relation.runSteps {backend : InputBackend σ} (relation : Relation backend related)
    (controls : Controls) (steps : List Step)
    : (runSteps backend controls steps).Within related := by
  have anyBinding : BindingRelation (fun _ _ => True) backend related :=
    { relation with set := fun world name binding _ => relation.set world name binding }
  exact anyBinding.runSteps controls fun _ _ _ _ _ => trivial

/-- A run uses its screen, and nothing else about it changes. -/
theorem reaches_relation
    : Relation FailingScreen.backend fun before after : World FailingScreen =>
        before.device.device.Reaches after.device.device where
  refl world := .refl world.device.device
  trans := VirtualScreen.Reaches.trans
  started world _ := .refl world.device.device
  waited world _ := .refl world.device.device
  called world dispatch := world.device.reaches_send dispatch
  set world _ _ := .refl world.device.device
  shadowed _ _ _ _ inner := inner

/-- A run leads a screen on by calls alone, and by going offline. -/
theorem playOn_reaches (controls : Controls) (offlineAfter : Option Nat) (steps : List Step)
    (device : VirtualScreen) (environment : Environment)
    : device.Reaches
        (playOn controls offlineAfter steps device environment).world.device.device :=
  (FailingScreen.reaches_settle ⟨device, offlineAfter⟩).trans
    (reaches_relation.runSteps controls steps (.initial _ environment))

end DesktopAutomation.Run
