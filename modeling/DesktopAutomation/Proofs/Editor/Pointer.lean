import DesktopAutomation.Proofs.Editor.Capture
import DesktopAutomation.Proofs.Run.Faults

/-! Moves of the pointer in a session. No operation brings a step into the tree that moves the
pointer off the screen, and none changes the size of the screen; so every run of the session finds
the targets of all its moves on the screen.
-/

namespace DesktopAutomation

@[simp] theorem Step.bare_target? (step : Step) : step.bare.target? = step.target? := by
  cases step with
  | action id act => rfl
  | statement id stmt body => rfl

namespace EditorSession

/-- All moves of a session, at any depth, have their targets on its screen. -/
def MovesOnScreen (session : EditorSession) : Prop :=
  ∀ step ∈ session.steps.toList, session.StaysOnScreen step

-----------------------------------------------------------------------------------------
-- One operation
-----------------------------------------------------------------------------------------

theorem staysOnScreen_of_admitted {session : EditorSession} {step : Step}
    (admitted : session.stepConflict? step = none)
    : session.StaysOnScreen step := by
  rw [stepConflict?, Option.or_eq_none_iff] at admitted
  exact (pointerConflict?_eq_none_iff ..).mp admitted.2

/-- Steps come into the tree by being added or edited, and then the screen is checked. -/
theorem Change.staysOnScreen {session after : EditorSession} (change : Change session after)
    (before : session.MovesOnScreen)
    : ∀ step ∈ after.steps.toList, session.StaysOnScreen step := by
  have alone (step : Step) : session.StaysOnScreen step.bare ↔ session.StaysOnScreen step := by
    simp only [StaysOnScreen, Step.bare_target?]
  have listed : ∀ step ∈ bareListing session.steps.steps, session.StaysOnScreen step :=
    (forall_toList_iff .rfl alone).mp before
  cases change with
  | refused => exact before
  | screen device => exact before
  | added accepted =>
      obtain ⟨_, admitted, steps, inserted, rfl⟩ := add_eq_ok accepted
      rw [forall_toList_iff (StepTree.insert?_perm inserted) alone, List.forall_mem_append]
      refine ⟨?_, listed⟩
      intro bare member
      obtain ⟨new, inNew, rfl⟩ := List.mem_map.mp member
      exact (alone new).mpr (staysOnScreen_of_admitted (admitted new inNew))
  | edited accepted =>
      obtain ⟨old, steps, found, admitted, replaced, rfl⟩ := edit_eq_ok accepted
      obtain rfl : old.id = _ := by simpa using List.find?_some found
      obtain ⟨rest, listedBefore, listedAfter⟩ := replace?_versionOf_perm found replaced
      rw [forall_toList_iff listedAfter alone, List.forall_mem_append, List.forall_mem_singleton]
      refine ⟨(alone _).mpr (staysOnScreen_of_admitted admitted), ?_⟩
      intro step member
      exact listed step (listedBefore.mem_iff.mpr (List.mem_append_right _ member))
  | removed accepted =>
      obtain ⟨steps, removed, rfl⟩ := remove_eq_ok accepted
      rw [forall_toList_iff .rfl alone]
      intro step member
      have out := (StepTree.remove?_takenOut removed).perm
      exact listed step (out.mem_iff.mpr (List.mem_append_right _ member))
  | moved accepted =>
      obtain ⟨steps, moved, rfl⟩ := reorder?_eq_some accepted
      rw [forall_toList_iff (StepTree.reorder?_perm moved) alone]
      exact listed
  | cleared accepted =>
      obtain ⟨steps, cleared, rfl⟩ := clear_eq_ok accepted
      rw [forall_toList_iff .rfl alone]
      intro step member
      have out := StepTree.clear?_perm cleared
      exact listed step (out.mem_iff.mpr (List.mem_append_right _ member))

-----------------------------------------------------------------------------------------
-- All operations
-----------------------------------------------------------------------------------------

/-- Whatever is done with a session, its moves stay on the screen, which keeps its size. -/
theorem performAll_movesOnScreen {session : EditorSession} (moves : session.MovesOnScreen)
    (operations : List Operation)
    : (session.performAll operations).MovesOnScreen
      ∧ (session.performAll operations).device.screen = session.device.screen := by
  induction operations generalizing session with
  | nil => exact ⟨moves, rfl⟩
  | cons operation rest ih =>
      have size := (session.perform_reaches operation).screen
      have kept : (session.perform operation).MovesOnScreen := by
        intro step member target moves'
        rw [size]
        exact (perform_change session operation).staysOnScreen moves step member target moves'
      obtain ⟨stillKept, sameSize⟩ := ih kept
      exact ⟨stillKept, sameSize.trans size⟩

/-- Whatever was done with a session that started empty, all its moves stay on the screen that it
started with. If the screen is online, a run of it stops for no other reason than a variable, or
because its controls cancel it; a run during which the screen goes offline may also stop for that,
and the screen is then offline at the end.
-/
theorem performAll_run_mayStop (device : VirtualScreen) (operations : List Operation)
    : let session := (fresh device).performAll operations
      (∀ step ∈ session.steps.toList, ∀ target,
          step.target? = some target → device.screen.contains target = true)
      ∧ (session.device.offline = false → ∀ controls error,
          (session.run controls none).1.error? = some error
          → error.OfVariable ∨ (error = .cancelled ∧ controls ≠ .steady controls.delay))
      ∧ ∀ controls offlineAfter error,
          (session.run controls offlineAfter).1.error? = some error
          → error.OfVariable
            ∨ (error = .cancelled ∧ controls ≠ .steady controls.delay)
            ∨ ((∃ id, error = .backend id .offline)
              ∧ (session.run controls offlineAfter).2.device.offline = true) := by
  intro session
  have empty : (fresh device).MovesOnScreen := by
    intro step member
    rw [StepTree.toList_eq] at member
    exact absurd member List.not_mem_nil
  obtain ⟨moves, size⟩ := performAll_movesOnScreen empty operations
  have listed := moves
  rw [MovesOnScreen, StepTree.toList_eq] at listed
  refine ⟨?_, ?_, ?_⟩
  · intro step member target isTarget
    have onScreen := moves step member target isTarget
    rwa [size] at onScreen
  · intro online controls error stops
    obtain ⟨reasons, lasts⟩ := Run.playOn_mayStop controls none session.environment listed
    cases reasons error stops with
    | ofVariable fault => exact .inl fault
    | cancelled cancels => exact .inr ⟨rfl, cancels⟩
    | offline id isOffline => exact absurd isOffline (by simp [lasts online rfl])
  · intro controls offlineAfter error stops
    obtain ⟨reasons, _⟩ :=
      Run.playOn_mayStop controls offlineAfter session.environment listed
    cases reasons error stops with
    | ofVariable fault => exact .inl fault
    | cancelled cancels => exact .inr (.inl ⟨rfl, cancels⟩)
    | offline id isOffline => exact .inr (.inr ⟨⟨id, rfl⟩, isOffline⟩)

/-- A place in the lower right corner is captured into the body of a cycle; it cannot be edited to
one off the screen. A run stops for the list that is missing, or is cancelled at its start.
-/
theorem performAll_run_mayStop_captured
    : let device := VirtualScreen.blank .standard
      let session := (fresh device).performAll
        [.send (.move ⟨1919, 1079⟩),
          .add (.statement ⟨1⟩ (.cycle "rows" "row") [.action ⟨2⟩ (.click .left)]) none,
          .addCaptured (some ⟨1⟩),
          .edit ⟨3⟩ (.action ⟨3⟩ (.move ⟨1920, 0⟩))]
      let missing := RunError.variableNotFound ⟨1⟩ "rows"
      (.action ⟨3⟩ (.move ⟨1919, 1079⟩) ∈ session.steps.toList
        ∧ device.screen.contains ⟨1919, 1079⟩ = true)
      ∧ (session.device.offline = false
        ∧ (session.run (.steady 5) none).1.error? = some missing
        ∧ missing.OfVariable)
      ∧ (session.run ⟨5, some 0, none⟩ none).1.error? = some .cancelled
      ∧ Run.Controls.mk 5 (some 0) none ≠ .steady 5 := by
  intro device session missing
  obtain ⟨moves, faults, controlled⟩ := performAll_run_mayStop device
    [.send (.move ⟨1919, 1079⟩),
      .add (.statement ⟨1⟩ (.cycle "rows" "row") [.action ⟨2⟩ (.click .left)]) none,
      .addCaptured (some ⟨1⟩),
      .edit ⟨3⟩ (.action ⟨3⟩ (.move ⟨1920, 0⟩))]
  have captured : .action ⟨3⟩ (.move ⟨1919, 1079⟩) ∈ session.steps.toList := by decide +kernel
  have online : session.device.offline = false := by decide +kernel
  have stops : (session.run (.steady 5) none).1.error? = some missing := by decide +kernel
  have cancelled : (session.run ⟨5, some 0, none⟩ none).1.error? = some .cancelled := by
    decide +kernel
  have fault : missing.OfVariable := by
    rcases faults online (.steady 5) missing stops with fault | ⟨_, steady⟩
    · exact fault
    · exact absurd rfl steady
  refine ⟨⟨captured, moves _ captured _ rfl⟩, ⟨online, stops, fault⟩, cancelled, ?_⟩
  rcases controlled ⟨5, some 0, none⟩ none .cancelled cancelled with
    fault | ⟨_, controls⟩ | ⟨⟨_, backend⟩, _⟩
  · cases fault
  · exact controls
  · cases backend

end EditorSession

end DesktopAutomation
