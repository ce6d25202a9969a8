import DesktopAutomation.CommandLine.Basic
import DesktopAutomation.Proofs.Editor.Consistency
import DesktopAutomation.Proofs.Run.Stopping
import DesktopAutomation.Proofs.Tree.Position

/-! What the report of a run tells. All that the screen took is shown, entry by entry, however the
run ended; and if a step failed, the report points at it by its position in the tree.
-/

namespace DesktopAutomation.CommandLine
open Run

/-- What is shown of dispatches is one entry for each, numbered on from the first number. -/
theorem dispatchLines_eq (first : Nat) (dispatches : List Dispatch)
    : dispatchLines first dispatches
      = String.join
          ((dispatches.zipIdx first).map fun entry => dispatchLine entry.2 entry.1) := by
  induction dispatches generalizing first with
  | nil => rfl
  | cons dispatch rest ih =>
      rw [dispatchLines, ih, List.zipIdx_cons, List.map_cons, String.join_cons]

/-- An error that names a step of the tree is reported below the text of the path to the step. -/
theorem head?_runErrors {steps : StepTree} {error : RunError} {id : StepId} {path : List Nat}
    (names : error.step? = some id) (isPath : steps.path? id = some path) (leads : path ≠ [])
    : (runErrors steps error).head? = some ("step " ++ pathText path ++ " failed") := by
  simp [runErrors, names, StepTree.positionPath, isPath, pathText_ne_empty leads]

/-- A run on a screen that nothing was sent to stops at a step of its own, with all on record that
the screen took.
-/
theorem playOn_stopped (controls : Controls) (steps : List Step) (screen : Screen)
    (environment : Environment)
    : let outcome := playOn controls none steps (.blank screen) environment
      (outcome.error? = none → sent outcome.events = outcome.dispatches)
      ∧ ∀ error, outcome.error? = some error → Stopped steps error outcome.world := by
  have initial : OnRecord (.initial (FailingScreen.settle ⟨.blank screen, none⟩) environment) := rfl
  obtain ⟨goesOn, stops⟩ := runSteps_triple controls steps _ initial
  intro outcome
  refine ⟨fun ended => ?_, stops⟩
  have inOrder : sent outcome.events = (sent outcome.world.history).reverse :=
    List.filterMap_reverse ..
  exact inOrder.trans (congrArg List.reverse (goesOn ended).symm)

/-- Whatever the document, the screen and the controls of its run, the report shows one entry for
each dispatch that the screen took, in order and numbered from one; these are all calls of the run
but for a last one that was refused. If the run fails with an error that names a step, the first
text of the report gives the position of the step: its numbers, counted from one, lead from the top
of the tree to the step with the id, and no step was started after it.
-/
theorem controlledReport_points (settings : Settings) (controls : Controls) {text : String}
    {document : Document} (accepted : Document.read text = .ok document)
    : let outcome :=
        playOn controls none document.steps.steps (.blank settings.screen) document.environment
      let report := controlledReport settings controls document
      report.output
          = String.join
              ((outcome.dispatches.zipIdx 1).map fun entry => dispatchLine entry.2 entry.1)
      ∧ (∃ refused : Option Dispatch,
          sent outcome.events = outcome.dispatches ++ refused.toList
          ∧ (refused.isSome ↔ ∃ id cause, outcome.error? = some (.backend id cause)))
      ∧ ∀ error id,
          outcome.error? = some error
          → error.step? = some id
          → document.steps.contains id = true
            ∧ ∃ path step,
                report.errors.head? = some ("step " ++ pathText path ++ " failed")
                ∧ placesOf (pathText path) = path.map (· + 1)
                ∧ stepAt? path document.steps.steps = some step
                ∧ step.id = id
                ∧ document.steps.find? id = some step
                ∧ lastStarted? outcome.events = some step := by
  intro outcome report
  obtain ⟨allSent, stops⟩ :=
    playOn_stopped controls document.steps.steps settings.screen document.environment
  refine ⟨dispatchLines_eq 1 _, ?_, ?_⟩
  · cases ended : outcome.error? with
    | none => exact ⟨none, by simpa using allSent ended, by simp⟩
    | some error =>
        obtain ⟨refused, recorded, isRefused⟩ := (stops error ended).record
        refine ⟨refused, ?_, by simpa using isRefused⟩
        have inOrder : sent outcome.events = (sent outcome.world.history).reverse :=
          List.filterMap_reverse ..
        rw [inOrder, recorded, List.reverse_append]
        cases refused <;> rfl
  · intro error id ended names
    obtain ⟨step, listed, rfl, last⟩ := (stops error ended).named id names
    have sound := EditorSession.ofDocument_sound (.blank settings.screen) accepted
    have found : document.steps.find? step.id = some step :=
      StepTree.find?_of_mem sound.distinctIds_toList (StepTree.toList_eq _ ▸ listed)
    obtain ⟨path, isPath, leads, atPath⟩ := StepTree.path?_of_find? found
    refine ⟨by rw [StepTree.contains, found]; rfl, path, step, ?_, placesOf_pathText leads, atPath,
      rfl, found, last⟩
    have errors : report.errors = runErrors document.steps error := by
      show (outcome.error?.map _).getD [] = _
      rw [ended]
      rfl
    rw [errors]
    exact head?_runErrors names isPath leads

/-- A document whose last step leaves the screen in the second round of a cycle. -/
def straying : Document where
  head := ⟨"T", ⟨⟨2021, 6, 7, 8, 9, 10, 0⟩, by decide⟩⟩
  steps :=
    ⟨[.action ⟨4⟩ (.parseString "a,b" "" "," "rows"),
      .statement ⟨2⟩ (.cycle "rows" "row")
        [.action ⟨7⟩ (.write "" "row"),
          .statement ⟨5⟩ (.conditional ⟨.variable "row", .equal, .literal "b"⟩)
            [.action ⟨3⟩ (.move ⟨1920, 0⟩)]]]⟩
  environment := .empty

theorem controlledReport_points_straying
    : let outcome :=
        playOn (.steady 0) none straying.steps.steps (.blank .standard) straying.environment
      let report := controlledReport .standard (.steady 0) straying
      let strays : Step := .action ⟨3⟩ (.move ⟨1920, 0⟩)
      Document.read straying.print = .ok straying
      ∧ outcome.error? = some (.backend ⟨3⟩ (.outOfBounds ⟨1920, 0⟩ .standard))
      ∧ report.output = "   1  type \"a\"\n   2  type \"b\"\n"
      ∧ report.errors.head? = some "step 2.2.1 failed"
      ∧ (∃ refused,
          sent outcome.events = outcome.dispatches ++ [refused])
      ∧ ∃ path,
          report.errors.head? = some ("step " ++ pathText path ++ " failed")
          ∧ stepAt? path straying.steps.steps = some strays
          ∧ lastStarted? outcome.events = some strays := by
  intro outcome report strays
  have valid : straying.Valid := (Document.violation?_eq_none_iff straying).mp (by decide +kernel)
  have accepted : Document.read straying.print = .ok straying := by
    refine (Document.read_print_iff Environment.stored_empty).mpr ⟨valid, by decide +kernel, ?_⟩
    intro number inside
    exact absurd inside List.not_mem_nil
  have fails : outcome.error? = some (.backend ⟨3⟩ (.outOfBounds ⟨1920, 0⟩ .standard)) := by
    decide +kernel
  obtain ⟨-, ⟨refused?, recorded, isRefused⟩, points⟩ :=
    controlledReport_points .standard (.steady 0) accepted
  obtain ⟨refused, rfl⟩ := Option.isSome_iff_exists.mp (isRefused.mpr ⟨_, _, fails⟩)
  obtain ⟨-, path, step, first, -, atPath, -, found, last⟩ := points _ ⟨3⟩ fails rfl
  have isStrays : straying.steps.find? ⟨3⟩ = some strays := by decide +kernel
  obtain rfl : strays = step := Option.some.inj (isStrays.symm.trans found)
  exact ⟨accepted, fails, by decide +kernel, by decide +kernel, ⟨refused, recorded⟩,
    path, first, atPath, last⟩

end DesktopAutomation.CommandLine
