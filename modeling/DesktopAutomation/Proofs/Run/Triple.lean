import DesktopAutomation.Run.Basic

/-! What is known before and behind a deed, and where it stops a run, with one rule for each way in
which deeds are made of others.
-/

namespace DesktopAutomation.Run
open Deed

variable {σ : Type}

/-- From every world with `pre` a deed goes on in one with `post`, or it stops the run with an error
in a world that `stops` tells of.
-/
def Deed.Triple (pre : World σ → Prop) (deed : Deed σ) (post : World σ → Prop)
    (stops : RunError → World σ → Prop) : Prop :=
  ∀ world,
    pre world
    → ((deed world).1 = none → post (deed world).2)
      ∧ ∀ error, (deed world).1 = some error → stops error (deed world).2

namespace Deed.Triple
variable {pre mid post : World σ → Prop} {stops : RunError → World σ → Prop}

theorem done : (done : Deed σ).Triple pre pre stops :=
  fun _ given => ⟨fun _ => given, fun _ stopped => by simp [Deed.done] at stopped⟩

/-- More may be known before a deed, and less behind it and where it stops. -/
theorem weaken {deed : Deed σ} (triple : deed.Triple pre post stops)
    {before behind : World σ → Prop} {stopping : RunError → World σ → Prop}
    (early : ∀ world, before world → pre world) (late : ∀ world, post world → behind world)
    (stopped : ∀ error world, stops error world → stopping error world)
    : deed.Triple before behind stopping := by
  intro world given
  obtain ⟨goesOn, stopsWith⟩ := triple world (early world given)
  exact ⟨fun ended => late _ (goesOn ended),
    fun error isError => stopped error _ (stopsWith error isError)⟩

/-- More may be known before a deed. -/
theorem strengthen {deed : Deed σ} (triple : deed.Triple pre post stops)
    {before : World σ → Prop} (early : ∀ world, before world → pre world)
    : deed.Triple before post stops :=
  triple.weaken early (fun _ given => given) fun _ _ stopped => stopped

theorem andThen {first second : Deed σ} (early : first.Triple pre mid stops)
    (late : second.Triple mid post stops)
    : (first.andThen second).Triple pre post stops := by
  intro world given
  have begun := early world given
  rw [Deed.andThen]
  split
  · next after ended =>
      rw [ended] at begun
      exact late after (begun.1 rfl)
  · next stopped => exact ⟨fun ended => (stopped _ (Prod.ext ended rfl)).elim, begun.2⟩

theorem forEach {α : Type} {deed : α → Deed σ} {items : List α}
    (each : ∀ item ∈ items, (deed item).Triple pre pre stops)
    : (forEach deed items).Triple pre pre stops := by
  induction items with
  | nil => exact done
  | cons item rest ih =>
      obtain ⟨first, others⟩ := List.forall_mem_cons.mp each
      exact first.andThen (ih others)

theorem reading {α : Type} {read : Environment → Except RunError α} {use : α → Deed σ}
    (fails : ∀ world error, pre world → read world.environment = .error error → stops error world)
    (uses : ∀ value, (use value).Triple pre post stops)
    : (reading read use).Triple pre post stops := by
  intro world given
  rw [Deed.reading]
  split
  · next value _ => exact uses value world given
  · next error failed =>
      refine ⟨fun ended => by simp at ended, fun other stopped => ?_⟩
      obtain rfl := Option.some.inj stopped
      exact fails world error given failed

theorem change (edit : Environment → Environment)
    (kept : ∀ world, pre world → post { world with environment := edit world.environment })
    : (change edit : Deed σ).Triple pre post stops :=
  fun world given => ⟨fun _ => kept world given, fun _ stopped => by simp [Deed.change] at stopped⟩

/-- What does not depend on variables passes through a shadow. -/
theorem shadowing {deed : Deed σ} (triple : deed.Triple pre post stops) (name : String)
    (binding : Variable)
    (begins : ∀ world environment, pre world → pre { world with environment })
    (ends : ∀ world environment, post world → post { world with environment })
    (stopped
      : ∀ error world environment, stops error world → stops error { world with environment })
    : (shadowing name binding deed).Triple pre post stops := by
  intro world given
  obtain ⟨goesOn, stopsWith⟩ := triple _ (begins world _ given)
  exact ⟨fun ended => ends _ _ (goesOn ended),
    fun error isError => stopped error _ _ (stopsWith error isError)⟩

theorem start (step : Step)
    (started : ∀ world, pre world → post { world with history := .started step :: world.history })
    : (start step : Deed σ).Triple pre post stops :=
  fun world given => ⟨fun _ => started world given, fun _ stopped => by
    simp [Deed.start] at stopped⟩

/-- A wait passes, or a run that is controlled is cancelled before or within it. -/
theorem wait {controls : Controls} (time : Nat)
    (passes : ∀ world, pre world → post (world.pass time))
    (cancelled
      : controls ≠ .steady controls.delay
        → ∀ world,
            pre world
            → stops .cancelled world ∧ ∀ cut, stops .cancelled (world.pass cut))
    : (wait controls time : Deed σ).Triple pre post stops := by
  intro world given
  have stopping {after : World σ} (isStop : stops .cancelled after) (error : RunError)
      (isError : some RunError.cancelled = some error)
      : stops error after :=
    Option.some.inj isError ▸ isStop
  rw [Deed.wait]
  split
  · next isCancelled =>
      have controlled : controls ≠ .steady controls.delay := by
        intro steady
        rw [steady] at isCancelled
        simp [Controls.cancelled, Controls.steady] at isCancelled
      exact ⟨fun ended => by simp at ended, stopping (cancelled controlled world given).1⟩
  · split
    · next cut cuts =>
        have controlled : controls ≠ .steady controls.delay := by
          intro steady
          rw [steady] at cuts
          simp [Controls.steady] at cuts
        exact ⟨fun ended => by simp at ended, stopping ((cancelled controlled world given).2 _)⟩
    · exact ⟨fun _ => passes world given, fun _ isError => by simp at isError⟩

end Deed.Triple

end DesktopAutomation.Run
