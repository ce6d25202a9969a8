import DesktopAutomation.Proofs.Editor.Clearing

/-! Removing a step undoes adding it. The tree gets back its shape because a step that was put in
can be cut out alone. The variables are what they were because an accepted step declares keys that
were free: otherwise its registration would have overwritten what the removal cannot restore.
-/

namespace DesktopAutomation.EditorSession

/-- The keys that an accepted step declares were free: a variable there would belong to the step
that declares the key anew, which is not in the tree yet.
-/
theorem find?_of_add {session after : EditorSession} {step : Step} {parent : Option StepId}
    (sound : session.Sound) (given : session.Corresponds Owns)
    (accepted : session.add step parent = .ok after) {key : String}
    (declared : key ∈ (bareListing [step]).filterMap Step.declaredKey?)
    : session.environment.bindings.find? key = none := by
  have change := add_replaces sound accepted
  obtain ⟨newcomer, isNew, declares⟩ := List.mem_filterMap.mp declared
  refine Option.eq_none_iff_forall_ne_some.mpr fun binding bound => ?_
  obtain ⟨owner, listed, -, owns⟩ := given.declared key binding bound
  have same : owner.id = newcomer.id :=
    owns.symm.trans (change.free newcomer isNew key binding declares bound)
  have inTree : owner.id ∈ (bareListing session.steps.steps).map Step.id := by
    rw [bareListing_ids, ← StepTree.toList_eq]
    exact List.mem_map_of_mem listed
  have apart := change.distinctIds
  rw [List.map_append, List.nodup_append'] at apart
  exact apart.2.2 (List.mem_map_of_mem isNew) (same ▸ inTree)

/-- Without an accepted step and its variables, a session is what it was before. -/
theorem sheds_of_add {session after : EditorSession} {step : Step} {parent : Option StepId}
    (sound : session.Sound) (given : session.Corresponds Owns)
    (accepted : session.add step parent = .ok after)
    : after.Sheds session (bareListing [step]) := by
  have change := add_replaces sound accepted
  have unbound (key : String)
      : session.environment.bindings.find? key
        = if key ∈ (bareListing [step]).filterMap Step.declaredKey? then none
          else after.environment.bindings.find? key := by
    split
    · next declared => exact find?_of_add sound given accepted declared
    · next undeclared => exact (change.untouched key undeclared).symm
  have shadows := sound.unshadowed.trans change.unshadowed.symm
  have listed := change.listedAfter
  obtain ⟨-, -, steps, -, rfl⟩ := add_eq_ok accepted
  exact ⟨listed, unbound, shadows, rfl, rfl⟩

/-- A removal right behind an accepted addition hands the step back and leaves the session as it was
before: both take the same step out of the same tree.
-/
theorem Sound.remove_of_add {session after : EditorSession} {step : Step}
    {parent : Option StepId} (sound : session.Sound) (given : session.Corresponds Owns)
    (accepted : session.add step parent = .ok after)
    : after.remove step.id = .ok (step, session) := by
  have distinct := (add_replaces sound accepted).sound.distinctIds_toList
  obtain ⟨-, -, steps, inserted, grown⟩ := add_eq_ok accepted
  have cut : Cut [step] after.steps.steps session.steps.steps := by
    rw [grown]
    exact StepTree.insert?_cut inserted
  have removal
      : ∃ left, after.remove step.id = .ok (step, left) ∧ left.steps = session.steps := by
    rw [remove, StepTree.remove?_of_cut distinct cut]
    exact ⟨_, rfl, rfl⟩
  obtain ⟨left, removal, sameSteps⟩ := removal
  have unchanged : left = session :=
    ((TakesOut.removed removal).sheds distinct).eq_of_steps
      (sheds_of_add sound given accepted) sameSteps
  rw [removal, unchanged]

/-- Whatever was done with a session that started empty: if a step is accepted anywhere in it,
removing the step at once hands it back with all steps within it, and the session is what it was
before.
-/
theorem performAll_add_remove (device : VirtualScreen) (operations : List Operation) {step : Step}
    {parent : Option StepId} {after : EditorSession}
    (accepted : ((fresh device).performAll operations).add step parent = .ok after)
    : after.remove step.id = .ok (step, (fresh device).performAll operations) := by
  have sound := performAll_sound (fresh_sound device) operations
  have given := performAll_corresponds agreement_owns (fresh_sound device)
    (fresh_corresponds device Owns) operations
  exact sound.remove_of_add given accepted

/-- A cycle that declares names at two depths is put last in a conditional, between other steps and
variables, and taken out again.
-/
theorem performAll_add_remove_nested
    : let device := VirtualScreen.blank .standard
      let condition : Condition := ⟨.literal "a", .equal, .literal "a"⟩
      let operations : List Operation :=
        [.add (.action ⟨1⟩ (.setVariable "N" "x")) none,
          .add (.statement ⟨2⟩ (.conditional condition) [.action ⟨3⟩ (.sleep 5)]) none,
          .add (.action ⟨4⟩ (.setVariable "Old" "y")) (some ⟨2⟩),
          .remove ⟨4⟩]
      let step : Step :=
        .statement ⟨5⟩ (.cycle "Rows" "Row")
          [.action ⟨6⟩ (.setVariable "OLD" "z"),
            .statement ⟨7⟩ (.conditional condition) [.action ⟨8⟩ (.setVariable "M" "w")]]
      let before := (fresh device).performAll operations
      ∃ after,
        before.add step (some ⟨2⟩) = .ok after
        ∧ after.environment.bindings.contains "old" = true
        ∧ before.environment.bindings.contains "old" = false
        ∧ after.remove ⟨5⟩ = .ok (step, before) := by
  intro device condition operations step before
  have outcome
      : (before.add step (some ⟨2⟩)).toOption.map (·.environment.bindings.contains "old")
        = some true := by
    decide +kernel
  cases addition : before.add step (some ⟨2⟩) with
  | error refusal => simp [addition, Except.toOption] at outcome
  | ok after =>
      have bound : after.environment.bindings.contains "old" = true := by
        simpa [addition, Except.toOption] using outcome
      exact ⟨after, rfl, bound, by decide +kernel,
        performAll_add_remove device operations addition⟩

end DesktopAutomation.EditorSession
