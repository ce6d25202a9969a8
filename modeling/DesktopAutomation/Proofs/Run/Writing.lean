import DesktopAutomation.Proofs.Run.Cycle

/-! What a run writes for lasting. Names are bound by the steps that save a result and by nothing
else: a shadow takes up what is written to its name, and goes away with it. So a cycle leaves the
lasting variable of its items' name alone, whatever its steps write.
-/

namespace DesktopAutomation.Run
open Deed

variable {σ : Type}

/-- Every lasting binding is as it was before, or one that may be made. -/
def WritesOnly (mayBind : String → Variable → Prop) (before after : Environment) : Prop :=
  ∀ key,
    after.bindings.find? key = before.bindings.find? key
    ∨ ∃ name binding,
        mayBind name binding
        ∧ keyOf name = key
        ∧ after.bindings.find? key = some binding

/-- Runs write only what their steps may bind, also where they stop, since no deed drops a binding
and shadows hold no lasting ones.
-/
theorem writesOnly_relation (mayBind : String → Variable → Prop) (backend : InputBackend σ)
    : BindingRelation mayBind backend fun before after : World σ =>
        WritesOnly mayBind before.environment after.environment where
  refl _ _ := .inl rfl
  trans earlier later key := by
    rcases later key with kept | written
    · exact (earlier key).imp kept.trans fun ⟨name, binding, may, same, found⟩ =>
        ⟨name, binding, may, same, kept.trans found⟩
    · exact .inr written
  started _ _ _ := .inl rfl
  waited _ _ _ := .inl rfl
  called _ _ _ := .inl rfl
  set world name binding may key :=
    (world.environment.find?_set_cases name binding key).imp_right fun ⟨same, found⟩ =>
      ⟨name, binding, may, same, found⟩
  shadowed _ _ _ _ writes := writes

/-- A cycle leaves the lasting variable of the name for its items as it was, however it ends: in
each round the name is shadowed.
-/
theorem runStep_cycle_lasting? (backend : InputBackend σ) (controls : Controls) (id : StepId)
    (iterable saveItemsAs : String) (body : List Step)
    : (runStep backend controls (.statement id (.cycle iterable saveItemsAs) body)).Within
        fun before after : World σ =>
          after.environment.lasting? saveItemsAs = before.environment.lasting? saveItemsAs := by
  have chain : Chain fun before after : World σ =>
      after.environment.lasting? saveItemsAs = before.environment.lasting? saveItemsAs :=
    { refl := fun _ => rfl, trans := fun earlier later => later.trans earlier }
  rw [runStep]
  refine chain.reading fun items => chain.forEach (fun item world => ?_) items
  have framed := (framed_relation backend).runSteps controls body
    { world with environment := world.environment.shadow saveItemsAs ⟨id, .value, item⟩ }
  exact framed.lasting? List.mem_cons_self

/-- However a run ends, every lasting variable is as it was, or a step of the run bound it: one that
saves its result under the same name in any case, as a variable of its own. No name goes unbound. A
cycle leaves the lasting variable of the name for its items alone, whatever its steps write.
-/
theorem play_writes (backend : InputBackend σ) (controls : Controls) (steps : List Step)
    (device : σ) (environment : Environment)
    : let after := (play backend controls steps device environment).world.environment
      (∀ name, (environment.lasting? name).isSome → (after.lasting? name).isSome)
      ∧ (∀ key binding,
          after.bindings.find? key = some binding
          → environment.bindings.find? key ≠ some binding
          → ∃ step ∈ walk steps, ∃ name, Binds step name binding ∧ keyOf name = key)
      ∧ ∀ id iterable saveItemsAs body world,
          (runStep backend controls (.statement id (.cycle iterable saveItemsAs) body)
            world).2.environment.lasting? saveItemsAs
          = world.environment.lasting? saveItemsAs := by
  intro after
  have mayBind : ∀ step ∈ listingOf steps, ∀ name binding,
      Binds step name binding → ∃ step ∈ listingOf steps, Binds step name binding :=
    fun step member _ _ binds => ⟨step, member, binds⟩
  have writes := (writesOnly_relation _ backend).runSteps controls mayBind
    (.initial device environment)
  refine ⟨?_, ?_, runStep_cycle_lasting? backend controls⟩
  · intro name wasBound
    rcases writes (keyOf name) with kept | ⟨_, _, _, _, found⟩
    · exact (congrArg Option.isSome kept).trans wasBound
    · exact Option.isSome_of_eq_some found
  · intro key binding bound differs
    rcases writes key with kept | ⟨name, other, ⟨step, member, binds⟩, same, found⟩
    · exact absurd (kept.symm.trans bound) differs
    · obtain rfl : other = binding := Option.some.inj (found.symm.trans bound)
      rw [walk_eq_listingOf]
      exact ⟨step, member, name, binds, same⟩

/-- A cycle whose steps write the name of its items, and another one before the run fails. -/
theorem play_writes_shadowed
    : let environment : Environment :=
        ⟨.ofList [("lines", .ofTexts ⟨8⟩ ["a"]), ("x", .ofText ⟨9⟩ "old")], []⟩
      let steps : List Step :=
        [.statement ⟨1⟩ (.cycle "lines" "x")
          [.action ⟨2⟩ (.setVariable "X" "inner"), .action ⟨3⟩ (.setVariable "Y" "y"),
            .action ⟨4⟩ (.write "" "absent")]]
      let report :=
        play FailingScreen.backend (.steady 0) steps ⟨.blank .standard, none⟩ environment
      let after := report.world.environment
      report.error? = some (.variableNotFound ⟨4⟩ "absent")
      ∧ (environment.lasting? "x").isSome
      ∧ (after.lasting? "x").isSome
      ∧ (after.lasting? "x").map (·.owner) = some ⟨9⟩
      ∧ environment.bindings.find? "y" = none
      ∧ ∃ binding,
          after.bindings.find? "y" = some binding
          ∧ binding.owner = ⟨3⟩
          ∧ ∃ step ∈ walk steps, ∃ name, Binds step name binding ∧ keyOf name = "y" := by
  intro environment steps report after
  obtain ⟨kept, written, -⟩ :=
    play_writes FailingScreen.backend (.steady 0) steps ⟨.blank .standard, none⟩ environment
  have wasBound : (environment.lasting? "x").isSome := by decide +kernel
  have wasFree : environment.bindings.find? "y" = none := by
    rw [← Option.isNone_iff_eq_none]
    decide +kernel
  have isOwned : (after.bindings.find? "y").map (·.owner) = some ⟨3⟩ := by decide +kernel
  obtain ⟨binding, bound, owner⟩ := Option.map_eq_some_iff.mp isOwned
  exact ⟨by decide +kernel, wasBound, kept "x" wasBound, by decide +kernel, wasFree, binding, bound,
    owner, written "y" binding bound (by simp [wasFree])⟩

end DesktopAutomation.Run
