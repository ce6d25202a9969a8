import DesktopAutomation.Document.Reading

/-! Which documents are valid, told without the order in which violations are looked for.
Reading a text gives a document exactly if the text decodes to it and it is valid.
-/

namespace DesktopAutomation

/-- All integers of a document are safe, and no two of its steps share an id. -/
structure Document.Valid (document : Document) : Prop where
  distinctIds : (document.steps.toList.map Step.id).Nodup
  safeIds : ∀ step ∈ document.steps.toList, step.id.value ≤ largestSafe
  safeIntegers
    : ∀ step ∈ document.steps.toList, ∀ integer ∈ step.integers, integer.2 ≤ largestSafe
  safeOwners
    : ∀ entry ∈ document.environment.bindings.entries, entry.2.owner.value ≤ largestSafe

theorem firstUnsafe?_eq_none_iff (integers : List (IntegerField × UInt64))
    : firstUnsafe? integers = none ↔ ∀ integer ∈ integers, integer.2 ≤ largestSafe := by
  simp only [firstUnsafe?, Option.map_eq_none_iff, List.find?_eq_none, decide_eq_true_eq,
    UInt64.not_lt]

/-- A step violates nothing behind others exactly if its integers are safe and its id is new. -/
theorem Step.violation?_eq_none_iff (seen : List StepId) (step : Step)
    : step.violation? seen = none
      ↔ step.id.value ≤ largestSafe
        ∧ step.id ∉ seen
        ∧ ∀ integer ∈ step.integers, integer.2 ≤ largestSafe := by
  rw [violation?, StepId.isSafe]
  by_cases safe : step.id.value ≤ largestSafe <;> by_cases used : step.id ∈ seen <;>
    simp [safe, used, firstUnsafe?_eq_none_iff]

/-- Listed steps violate nothing exactly if all integers are safe, no id was seen before, and no id
comes twice; by induction over the list.
-/
theorem stepsViolation?_eq_none_iff (seen : List StepId) (steps : List Step)
    : stepsViolation? seen steps = none
      ↔ (steps.map Step.id).Nodup
        ∧ ∀ step ∈ steps,
            step.id.value ≤ largestSafe
            ∧ step.id ∉ seen
            ∧ ∀ integer ∈ step.integers, integer.2 ≤ largestSafe := by
  induction steps generalizing seen with
  | nil => simp [stepsViolation?]
  | cons step rest ih =>
      rw [stepsViolation?]
      cases violated : step.violation? seen with
      | some violation =>
          have faulty : ¬step.violation? seen = none := by simp [violated]
          rw [Step.violation?_eq_none_iff] at faulty
          simp only [reduceCtorEq, false_iff, not_and]
          intro _ all
          exact faulty (all step List.mem_cons_self)
      | none =>
          have sound := (Step.violation?_eq_none_iff ..).mp violated
          rw [ih, List.map_cons, List.nodup_cons, List.forall_mem_cons]
          simp only [List.mem_cons, not_or]
          constructor
          · rintro ⟨distinct, all⟩
            refine ⟨⟨?_, distinct⟩, sound, fun other member => ?_⟩
            · intro again
              obtain ⟨other, member, same⟩ := List.mem_map.mp again
              exact (all other member).2.1.1 same
            · obtain ⟨safe, ⟨_, unseen⟩, integers⟩ := all other member
              exact ⟨safe, unseen, integers⟩
          · rintro ⟨⟨new, distinct⟩, _, all⟩
            refine ⟨distinct, fun other member => ?_⟩
            obtain ⟨safe, unseen, integers⟩ := all other member
            refine ⟨safe, ⟨?_, unseen⟩, integers⟩
            intro same
            apply new
            rw [← same]
            exact List.mem_map_of_mem member

namespace Document

theorem violation?_eq_none_iff (document : Document)
    : document.violation? = none ↔ document.Valid := by
  rw [violation?, Option.or_eq_none_iff, stepsViolation?_eq_none_iff, firstUnsafe?_eq_none_iff]
  simp only [List.forall_mem_map]
  constructor
  · rintro ⟨⟨distinct, steps⟩, owners⟩
    refine ⟨distinct, ?_, ?_, owners⟩
    · intro step member
      exact (steps step member).1
    · intro step member
      exact (steps step member).2.2
  · rintro ⟨distinct, ids, integers, owners⟩
    refine ⟨⟨distinct, ?_⟩, owners⟩
    intro step member
    exact ⟨ids step member, List.not_mem_nil, integers step member⟩

/-- Reading accepts exactly the texts that decode to valid documents. -/
theorem read_eq_ok_iff (text : String) (document : Document)
    : read text = .ok document ↔ decode? text = some document ∧ document.Valid := by
  rw [read, ← violation?_eq_none_iff]
  cases decode? text with
  | none => simp
  | some decoded =>
      cases violated : decoded.violation? with
      | some violation =>
          simp only [violated, reduceCtorEq, Option.some.injEq, false_iff, not_and]
          rintro rfl
          simp [violated]
      | none =>
          simp only [violated, Except.ok.injEq, Option.some.injEq, iff_self_and]
          rintro rfl
          exact violated

end Document

end DesktopAutomation
