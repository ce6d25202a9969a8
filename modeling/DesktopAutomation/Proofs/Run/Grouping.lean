import DesktopAutomation.Proofs.Run.Cycle
import DesktopAutomation.Proofs.Run.Lockstep

/-! Groups of steps. A conditional that holds adds nothing to a run but its own start, and neither
does a cycle over one item if its steps do not use the name of the item: its shadow, wherever it lies
among further ones, is neither read nor written.
-/

namespace DesktopAutomation.Run
open Deed Environment

variable {σ : Type}

/-- Steps that do not use a name do not tell whether it has one more shadow. -/
theorem matching_covers (key : String) : Matching (fun name => keyOf name ≠ key) (Covers key) where
  get? := Covers.get?
  set binding covers differs := covers.set differs binding
  shadow name binding := by
    rintro ⟨bindings, upper, lower, hidden, rfl, rfl, rfl⟩
    exact ⟨bindings, (keyOf name, binding) :: upper, lower, hidden, rfl, rfl, rfl⟩
  unshadow := by
    rintro depth environment other ⟨bindings, upper, lower, hidden, longer, rfl, rfl⟩
    obtain ⟨top, rest, rfl⟩ := List.exists_cons_of_length_eq_add_one longer
    exact ⟨bindings, rest, lower, hidden, Nat.succ.inj longer, rfl, rfl⟩

-----------------------------------------------------------------------------------------
-- Groups
-----------------------------------------------------------------------------------------

theorem Deed.andThen_done (deed : Deed σ) : deed.andThen done = deed := by
  funext world
  rw [Deed.andThen]
  split
  · next ended => rw [ended, done]
  · rfl

theorem runSteps_append (backend : InputBackend σ) (controls : Controls)
    (steps rest : List Step)
    : runSteps backend controls (steps ++ rest)
      = (runSteps backend controls steps).andThen (runSteps backend controls rest) := by
  induction steps with
  | nil =>
      rw [List.nil_append, runSteps]
      rfl
  | cons step others ih =>
      rw [List.cons_append, runSteps_cons, ih, runSteps_cons, ← andThen_assoc]

section
variable {backend : InputBackend σ} {delay : Nat} {id : StepId} {body : List Step}
  {start world entered : World σ}

/-- A conditional that holds does what its steps do. -/
theorem alike_conditional {condition : Condition}
    (matched : Matched Eq world entered)
    (holds : readCondition id condition world.environment = .ok true)
    : Alike Eq (runSteps backend (.steady delay) body world)
        (runStep backend (.steady delay) (.statement id (.conditional condition) body)
          entered) := by
  have runs : runStep backend (.steady delay) (.statement id (.conditional condition) body) entered
      = runSteps backend (.steady delay) body entered := by
    rw [runStep, reading, ← matched.environment, holds]
    rfl
  rw [runs]
  exact lockstep_of_untimed rfl world entered matched

/-- A cycle over one item does what its steps do, if they do not use the name of the item. -/
theorem alike_cycle {iterable saveItemsAs : String} {item : VariableValue}
    (matched : Matched Eq world entered)
    (single : readList id iterable world.environment = .ok [item])
    (unused
      : ∀ step ∈ listingOf body, ∀ name ∈ step.usedNames, keyOf name ≠ keyOf saveItemsAs)
    : Alike Eq (runSteps backend (.steady delay) body world)
        (runStep backend (.steady delay) (.statement id (.cycle iterable saveItemsAs) body)
          entered) := by
  have runs : runStep backend (.steady delay) (.statement id (.cycle iterable saveItemsAs) body)
        entered
      = shadowing saveItemsAs ⟨id, .value, item⟩ (runSteps backend (.steady delay) body)
          entered := by
    rw [runStep, reading, ← matched.environment, single]
    exact congrFun (Deed.andThen_done _) entered
  have lockstep : (runSteps backend (.steady delay) body).Lockstep (Covers (keyOf saveItemsAs) 0)
      (runSteps backend (.steady delay) body) :=
    (matching_covers _).runSteps rfl unused 0
  have covers := covers_shadow world.environment saveItemsAs ⟨id, .value, item⟩
  obtain ⟨error, device, sent, environment⟩ := lockstep world
    { entered with environment := entered.environment.shadow saveItemsAs ⟨id, .value, item⟩ }
    ⟨matched.device, matched.sent, matched.environment ▸ covers⟩
  rw [runs]
  exact ⟨error, device, sent, environment.unshadow.symm⟩

/-- A group that does what its steps do may take their place between other steps. -/
theorem alike_grouped {group : Step} {before : List Step}
    (reached : runSteps backend (.steady delay) before start = (none, world))
    (does
      : ∀ entered,
          Matched Eq world entered
          → Alike Eq (runSteps backend (.steady delay) body world)
              (runStep backend (.steady delay) group entered))
    (rest : List Step)
    : Alike Eq (runSteps backend (.steady delay) (before ++ (body ++ rest)) start)
        (runSteps backend (.steady delay) (before ++ group :: rest) start) := by
  let entered : World σ :=
    { world.pass delay with history := .started group :: (world.pass delay).history }
  have enters
      : runSteps backend (.steady delay) (group :: rest) world
        = (runStep backend (.steady delay) group).andThen (runSteps backend (.steady delay) rest)
            entered := by
    rw [runSteps_cons, andThen_assoc]
    rfl
  have arrives (steps : List Step)
      : runSteps backend (.steady delay) (before ++ steps) start
        = runSteps backend (.steady delay) steps world := by
    rw [runSteps_append, Deed.andThen, reached]
  rw [arrives, arrives, runSteps_append, enters]
  exact (does entered ⟨rfl, rfl, rfl⟩).andThen (lockstep_of_untimed rfl)

end

/-- Where an uncancelled run has done some steps, it may do the next ones in a group: in a
conditional that holds there, or in a cycle whose list has one item there, if none of the steps within
uses the name of the item. The run has the same effect, whatever follows.
-/
theorem play_grouped (backend : InputBackend σ) (delay : Nat) (before body rest : List Step)
    (id : StepId) (device : σ) (environment : Environment)
    : let run steps := play backend (.steady delay) steps device environment
      let point := (run before).world.environment
      (run before).error? = none
      → (∀ condition,
          readCondition id condition point = .ok true
          → (run (before ++ body ++ rest)).SameEffect
              (run (before ++ .statement id (.conditional condition) body :: rest)))
        ∧ ∀ iterable saveItemsAs owner kind item,
            point.get? iterable = some ⟨owner, kind, .list [item]⟩
            → (∀ step ∈ walk body, ∀ name ∈ step.usedNames, keyOf name ≠ keyOf saveItemsAs)
            → (run (before ++ body ++ rest)).SameEffect
                (run (before ++ .statement id (.cycle iterable saveItemsAs) body :: rest)) := by
  intro run point finished
  have reached : runSteps backend (.steady delay) before (.initial device environment)
      = (none, (run before).world) :=
    Prod.ext finished rfl
  rw [List.append_assoc]
  constructor
  · intro condition holds
    refine (alike_grouped reached (fun entered matched => ?_) rest).sameEffect
    exact alike_conditional matched holds
  · intro iterable saveItemsAs owner kind item bound unused
    have single : readList id iterable point = .ok [item] := by rw [readList_of_bound id bound]
    rw [walk_eq_listingOf] at unused
    refine (alike_grouped reached (fun entered matched => ?_) rest).sameEffect
    exact alike_cycle matched single unused

/-- Steps that type a list and change a variable are grouped behind steps that make both. -/
theorem play_grouped_typing
    : let run steps :=
        play FailingScreen.backend (.steady 0) steps ⟨.blank .standard, none⟩ .empty
      let before : List Step :=
        [.action ⟨1⟩ (.parseString "a" "" "," "Lines"), .action ⟨2⟩ (.setVariable "kept" "k")]
      let body : List Step :=
        [.statement ⟨3⟩ (.cycle "lines" "line") [.action ⟨4⟩ (.write "" "LINE")],
          .action ⟨5⟩ (.setVariable "KEPT" "l")]
      let rest : List Step := [.action ⟨6⟩ (.write "" "kept")]
      let condition : Condition := ⟨.variable "Kept", .equal, .literal "k"⟩
      (run before).error? = none
      ∧ readCondition ⟨7⟩ condition (run before).world.environment = .ok true
      ∧ (run before).world.environment.get? "LINES"
        = some ⟨⟨1⟩, .list, .list [.text "a"]⟩
      ∧ (∀ step ∈ walk body, ∀ name ∈ step.usedNames, keyOf name ≠ keyOf "Item")
      ∧ sent (run (before ++ body ++ rest)).events = [.text "a", .text "l"]
      ∧ (run (before ++ body ++ rest)).SameEffect
          (run (before ++ .statement ⟨7⟩ (.conditional condition) body :: rest))
      ∧ (run (before ++ body ++ rest)).SameEffect
          (run (before ++ .statement ⟨7⟩ (.cycle "LINES" "Item") body :: rest)) := by
  intro run before body rest condition
  have finished : (run before).error? = none := by decide +kernel
  have holds : readCondition ⟨7⟩ condition (run before).world.environment = .ok true := by
    decide +kernel
  have bound : (run before).world.environment.get? "LINES"
      = some ⟨⟨1⟩, .list, .list [.text "a"]⟩ := by
    rfl
  have unused : ∀ step ∈ walk body, ∀ name ∈ step.usedNames, keyOf name ≠ keyOf "Item" := by
    decide +kernel
  obtain ⟨conditional, cycle⟩ :=
    play_grouped FailingScreen.backend 0 before body rest ⟨7⟩ ⟨.blank .standard, none⟩ .empty
      finished
  exact ⟨finished, holds, bound, unused, by decide +kernel, conditional condition holds,
    cycle _ _ _ _ _ bound unused⟩

end DesktopAutomation.Run
