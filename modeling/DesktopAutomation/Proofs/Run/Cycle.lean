import DesktopAutomation.Proofs.Environment.Shadows
import DesktopAutomation.Proofs.Run.Relation

/-! How a cycle runs its body: once for each item that its list held before, with the item bound to
the name for items, and with nothing else changed between two runs of the body. However the cycle
ends, the shadows and the binding of that name are as they were.
-/

namespace DesktopAutomation.Run
open Deed

variable {σ : Type}

/-- One world takes up where another left off, but for the binding of a name. -/
structure Resumes (name : String) (before after : World σ) : Prop where
  device : after.device = before.device
  clock : after.clock = before.clock
  history : after.history = before.history
  bindings
    : ∀ other,
        keyOf other ≠ keyOf name → after.environment.get? other = before.environment.get? other

theorem Resumes.trans {name : String} {first second third : World σ}
    (earlier : Resumes name first second) (later : Resumes name second third)
    : Resumes name first third where
  device := later.device.trans earlier.device
  clock := later.clock.trans earlier.clock
  history := later.history.trans earlier.history
  bindings other differs := (later.bindings other differs).trans (earlier.bindings other differs)

/-- The rounds of a cycle, from the world before the first to the world behind the last. A round
starts with the name bound to its item, for the owner; an error in one is the last of them.
-/
inductive Rounds (body : Deed σ) (name : String) (owner : StepId)
    : List VariableValue → World σ → Option RunError → World σ → Prop
  | finished {before after} (ends : Resumes name before after)
    : Rounds body name owner [] before none after
  | completed {item rest before start finish stopped? after}
    (resumes : Resumes name before start)
    (bound : start.environment.get? name = some ⟨owner, .value, item⟩)
    (ran : body start = (none, finish))
    (further : Rounds body name owner rest finish stopped? after)
    : Rounds body name owner (item :: rest) before stopped? after
  | stopped {item rest before start finish error after}
    (resumes : Resumes name before start)
    (bound : start.environment.get? name = some ⟨owner, .value, item⟩)
    (ran : body start = (some error, finish))
    (ends : Resumes name finish after)
    : Rounds body name owner (item :: rest) before (some error) after

theorem resumes_shadow (name : String) (binding : Variable) (world : World σ)
    : Resumes name world { world with environment := world.environment.shadow name binding } where
  device := rfl
  clock := rfl
  history := rfl
  bindings _ differs := by rw [Environment.get?_shadow, if_neg differs]

theorem resumes_unshadow {name : String} {keys : List String} {world : World σ}
    (hidden : world.environment.shadowKeys = keyOf name :: keys)
    : Resumes name world { world with environment := world.environment.unshadow } where
  device := rfl
  clock := rfl
  history := rfl
  bindings _ differs := Environment.get?_unshadow hidden differs

/-- Doing something for each item in the shadow of the item runs in rounds, by induction over the
items; each round starts where the one before has dropped its shadow.
-/
theorem forEach_rounds {body : Deed σ} (name : String) (owner : StepId)
    (framed
      : body.Within fun before after => before.environment.Framed after.environment)
    (items : List VariableValue) {previous world : World σ} (resumes : Resumes name previous world)
    : Rounds body name owner items previous
        (forEach (fun item => shadowing name ⟨owner, .value, item⟩ body) items world).1
        (forEach (fun item => shadowing name ⟨owner, .value, item⟩ body) items world).2 := by
  induction items generalizing previous world with
  | nil => exact .finished resumes
  | cons item rest ih =>
      let start : World σ :=
        { world with environment := world.environment.shadow name ⟨owner, .value, item⟩ }
      have starts : Resumes name previous start := resumes.trans (resumes_shadow name _ world)
      have bound : start.environment.get? name = some ⟨owner, .value, item⟩ := by
        rw [Environment.get?_shadow, if_pos rfl]
      have ends : Resumes name (body start).2
          { (body start).2 with environment := (body start).2.environment.unshadow } :=
        resumes_unshadow (framed start).keys
      rw [forEach, Deed.andThen]
      cases ran : body start with
      | mk stopped? finish =>
          rw [ran] at ends
          have first : shadowing name ⟨owner, .value, item⟩ body world
              = (stopped?, { finish with environment := finish.environment.unshadow }) := by
            rw [shadowing, ran]
          cases stopped? with
          | none =>
              rw [first]
              exact .completed starts bound ran (ih ends)
          | some error =>
              rw [first]
              exact .stopped starts bound ran ends

/-- Everything that a step does keeps the frame of the environment, and shadows come and go in
pairs.
-/
theorem framed_relation (backend : InputBackend σ)
    : Relation backend fun before after : World σ =>
        before.environment.Framed after.environment where
  refl world := .refl world.environment
  trans := Environment.Framed.trans
  started world _ := .refl world.environment
  waited world _ := .refl world.environment
  called world _ := .refl world.environment
  set world name binding := Environment.set_framed world.environment name binding
  shadowed _ _ _ _ framed := framed.unshadow.1

/-- Framed all through, and with one name bound as before. -/
theorem restored_chain (name : String)
    : Chain fun before after : World σ =>
        before.environment.Framed after.environment
        ∧ after.environment.get? name = before.environment.get? name where
  refl world := ⟨.refl world.environment, rfl⟩
  trans earlier later := ⟨earlier.1.trans later.1, later.2.trans earlier.2⟩

/-- A list is read exactly from a name that is bound to it. -/
theorem readList_of_bound (id : StepId) {name : String} {environment : Environment}
    {binding : Variable} (bound : environment.get? name = some binding)
    : readList id name environment
      = match binding.value with
        | .list items => .ok items
        | value => .error (.variableType id name "list" value.shape) := by
  rw [readList, lookUp, bound]
  obtain ⟨owner, kind, value⟩ := binding
  cases value <;> rfl

/-- A cycle keeps the shadows and the binding of its name for items, whatever its outcome. If its
iterable is bound to a list, the body runs in rounds over the items that the list holds before the
cycle; otherwise the cycle stops before its body. A run leaves all shadows as it finds them.
-/
theorem runStep_cycle_scoped (backend : InputBackend σ) (controls : Controls) (id : StepId)
    (iterable saveItemsAs : String) (body : List Step) (world : World σ)
    : (let outcome :=
        runStep backend controls (.statement id (.cycle iterable saveItemsAs) body) world
      outcome.2.environment.shadowKeys = world.environment.shadowKeys
      ∧ outcome.2.environment.get? saveItemsAs = world.environment.get? saveItemsAs
      ∧ match world.environment.get? iterable with
        | some ⟨_, _, .list items⟩ =>
            Rounds (runSteps backend controls body) saveItemsAs id items world outcome.1
              outcome.2
        | _ => outcome.1.isSome ∧ outcome.2 = world)
      ∧ ∀ steps device environment,
          (play backend controls steps device environment).world.environment.shadowKeys
            = environment.shadowKeys := by
  have framed (steps : List Step)
      : (runSteps backend controls steps).Within fun before after : World σ =>
          before.environment.Framed after.environment :=
    (framed_relation backend).runSteps controls steps
  have restored
      : (runStep backend controls (.statement id (.cycle iterable saveItemsAs) body)).Within
          fun before after : World σ =>
            before.environment.Framed after.environment
            ∧ after.environment.get? saveItemsAs = before.environment.get? saveItemsAs := by
    rw [runStep]
    -- each round drops the shadow that it put up, with whatever the body wrote to the name
    refine (restored_chain saveItemsAs).reading fun items =>
      (restored_chain saveItemsAs).forEach (fun item world => ?_) items
    exact (framed body { world with
      environment := world.environment.shadow saveItemsAs ⟨id, .value, item⟩ }).unshadow
  refine ⟨⟨(restored world).1.keys, (restored world).2, ?_⟩, ?_⟩
  · cases bound : world.environment.get? iterable with
    | none => simp [runStep, reading, readList, lookUp, bound, bind, Except.bind]
    | some binding =>
        have read := readList_of_bound id bound
        obtain ⟨owner, kind, value⟩ := binding
        cases value with
        | list items =>
            simp only [runStep, reading, read]
            exact forEach_rounds saveItemsAs id (framed body) items
              ⟨rfl, rfl, rfl, fun _ _ => rfl⟩
        | text _ | null | other _ => simp [runStep, reading, read]
  · intro steps device environment
    exact (framed steps (.initial device environment)).keys

end DesktopAutomation.Run
