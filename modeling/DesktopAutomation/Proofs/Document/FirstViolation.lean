import DesktopAutomation.Proofs.Document.RoundTrip
import DesktopAutomation.Proofs.NameMap
import DesktopAutomation.Proofs.Tree.Accounting

/-! Which violation a text is refused for. Every place of a document that can break a rule has its
turn: the steps in the order of a walk, of each step its id, the repetition of its id and its data,
and behind all steps the variables. The first place that breaks its rule gives the error.
-/

namespace DesktopAutomation

-----------------------------------------------------------------------------------------
-- Violations of one step
-----------------------------------------------------------------------------------------

/-- An integer is above all that doubles tell apart. -/
def TooLarge (value : UInt64) : Prop := Number.twoTo 53 - 1 < value.toNat

instance (value : UInt64) : Decidable (TooLarge value) := inferInstanceAs (Decidable (_ < _))

theorem tooLarge_iff (value : UInt64) : TooLarge value ↔ largestSafe < value := by
  rw [TooLarge, UInt64.lt_iff_toNat_lt]
  rfl

theorem not_tooLarge_iff (value : UInt64) : ¬TooLarge value ↔ value ≤ largestSafe := by
  rw [tooLarge_iff, UInt64.not_lt]

namespace Step

/-- The integers in the data of a step, each with its place among them. -/
inductive Integer : Step → Nat → IntegerField → UInt64 → Prop
  | x {id target} : Integer (.action id (.move target)) 0 .moveX target.x
  | y {id target} : Integer (.action id (.move target)) 1 .moveY target.y
  | time {id time} : Integer (.action id (.sleep time)) 0 .sleepTime time
  | keyCode {id combination}
    : Integer (.action id (.pressKeyboard combination)) 0 .keyCode combination.keyCode
  | index {id readFrom index saveAs}
    : Integer (.action id (.destructVariable readFrom index saveAs)) 0 .index index

/-- What is wrong with a step behind steps with the ids `seen`, and at which turn it is found. -/
inductive Violates (seen : List StepId) (step : Step) : Nat → DocumentError → Prop
  | id (tooLarge : TooLarge step.id.value)
    : Violates seen step 0 (.unsafeInteger .id step.id.value)
  | repeated (again : step.id ∈ seen) : Violates seen step 1 (.duplicateStepId step.id)
  | integer {place field value} (isInteger : step.Integer place field value)
    (tooLarge : TooLarge value)
    : Violates seen step (place + 2) (.unsafeInteger field value)

theorem integers_getElem? (step : Step) (place : Nat) (field : IntegerField) (value : UInt64)
    : step.integers[place]? = some (field, value) ↔ step.Integer place field value := by
  constructor
  · intro listed
    cases step with
    | statement id stmt body => simp [integers] at listed
    | action id act =>
        cases act <;> simp only [integers, List.getElem?_nil, reduceCtorEq] at listed
        case move target =>
          rcases place with _ | _ | place <;>
            simp only [List.getElem?_cons_zero, List.getElem?_cons_succ, List.getElem?_nil,
              Option.some.injEq, Prod.mk.injEq, reduceCtorEq] at listed
          · obtain ⟨rfl, rfl⟩ := listed
            exact .x
          · obtain ⟨rfl, rfl⟩ := listed
            exact .y
        all_goals
          rcases place with _ | place <;>
            simp only [List.getElem?_cons_zero, List.getElem?_cons_succ, List.getElem?_nil,
              Option.some.injEq, Prod.mk.injEq, reduceCtorEq] at listed
          obtain ⟨rfl, rfl⟩ := listed
          constructor
  · rintro (_ | _ | _ | _ | _) <;> rfl

/-- Only which ids were seen matters, not in which order. -/
theorem violates_congr {seen others : List StepId} (same : ∀ id, id ∈ seen ↔ id ∈ others)
    {step : Step} {turn : Nat} {error : DocumentError}
    : step.Violates seen turn error ↔ step.Violates others turn error := by
  constructor
  · rintro (tooLarge | again | ⟨isInteger, tooLarge⟩)
    · exact .id tooLarge
    · exact .repeated ((same _).mp again)
    · exact .integer isInteger tooLarge
  · rintro (tooLarge | again | ⟨isInteger, tooLarge⟩)
    · exact .id tooLarge
    · exact .repeated ((same _).mpr again)
    · exact .integer isInteger tooLarge

/-- A turn finds one violation at most. -/
theorem Violates.unique {seen : List StepId} {step : Step} {turn : Nat}
    {error other : DocumentError} (violates : step.Violates seen turn error)
    (again : step.Violates seen turn other)
    : error = other := by
  cases violates with
  | id _ =>
      cases again
      rfl
  | repeated _ =>
      cases again
      rfl
  | integer isInteger _ =>
      cases again with
      | integer isOther _ =>
          rw [← integers_getElem?] at isInteger isOther
          obtain ⟨rfl, rfl⟩ := Prod.mk.inj (Option.some.inj (isInteger.symm.trans isOther))
          rfl

end Step

/-- The first integer that is too large has no other one before it. -/
theorem firstUnsafe?_eq_some {integers : List (IntegerField × UInt64)} {error : DocumentError}
    (found : firstUnsafe? integers = some error)
    : ∃ before field value after,
        integers = before ++ (field, value) :: after
        ∧ error = .unsafeInteger field value
        ∧ TooLarge value
        ∧ ∀ earlier ∈ before, ¬TooLarge earlier.2 := by
  obtain ⟨⟨field, value⟩, first, rfl⟩ := Option.map_eq_some_iff.mp found
  obtain ⟨tooLarge, before, after, rfl, others⟩ := List.find?_eq_some_iff_append.mp first
  refine ⟨before, field, value, after, rfl, rfl, ?_, fun earlier isEarlier => ?_⟩
  · simpa [tooLarge_iff] using tooLarge
  · simpa [tooLarge_iff] using others earlier isEarlier

namespace Step

/-- The violation of a step is the one that its first turn with any finds. -/
theorem violation?_eq_some {seen : List StepId} {step : Step} {error : DocumentError}
    (violated : step.violation? seen = some error)
    : ∃ turn,
        step.Violates seen turn error
        ∧ ∀ earlier < turn, ∀ other, ¬step.Violates seen earlier other := by
  rw [violation?] at violated
  split at violated
  · next safe =>
      have inRange : ¬TooLarge step.id.value :=
        (not_tooLarge_iff _).mpr (by simpa [StepId.isSafe] using safe)
      split at violated
      · next again =>
          obtain rfl := Option.some.inj violated
          refine ⟨1, .repeated again, fun earlier isEarlier other violates => ?_⟩
          cases violates with
          | id tooLarge => exact inRange tooLarge
          | repeated | integer => omega
      · next new =>
          obtain ⟨before, field, value, after, listed, rfl, tooLarge, others⟩ :=
            firstUnsafe?_eq_some violated
          have isInteger : step.Integer before.length field value := by
            rw [← integers_getElem?, listed]
            simp
          refine ⟨before.length + 2, .integer isInteger tooLarge, ?_⟩
          intro earlier isEarlier other violates
          cases violates with
          | id tooLarge => exact inRange tooLarge
          | repeated again => exact new again
          | @integer place otherField otherValue isOther otherLarge =>
              rw [← integers_getElem?, listed, List.getElem?_append_left (by omega)] at isOther
              exact others _ (List.mem_of_getElem? isOther) otherLarge
  · next tooLarge =>
      obtain rfl := Option.some.inj violated
      refine ⟨0, .id ?_, fun earlier isEarlier => absurd isEarlier (Nat.not_lt_zero _)⟩
      rw [tooLarge_iff, ← UInt64.not_le]
      simpa [StepId.isSafe] using tooLarge

theorem not_violates_of_none {seen : List StepId} {step : Step}
    (sound : step.violation? seen = none) {turn : Nat} {error : DocumentError}
    : ¬step.Violates seen turn error := by
  obtain ⟨safe, new, integers⟩ := (violation?_eq_none_iff ..).mp sound
  rintro (tooLarge | again | ⟨isInteger, tooLarge⟩)
  · exact (not_tooLarge_iff _).mpr safe tooLarge
  · exact new again
  · rw [← integers_getElem?] at isInteger
    exact (not_tooLarge_iff _).mpr (integers _ (List.mem_of_getElem? isInteger)) tooLarge

end Step

-----------------------------------------------------------------------------------------
-- Violations of listed steps
-----------------------------------------------------------------------------------------

/-- What stands before one item of a list stands before all that come later. -/
theorem exists_middle {α : Type} {front rest before behind : List α} {earlier later : α}
    (same : front ++ earlier :: rest = before ++ later :: behind)
    (fewer : front.length < before.length)
    : ∃ middle, before = front ++ earlier :: middle := by
  rcases List.append_eq_append_iff.mp same with ⟨between, rfl, tail⟩ | ⟨between, rfl, _⟩
  · cases between with
    | nil => simp at fewer
    | cons next middle =>
        obtain ⟨rfl, _⟩ := List.cons.inj tail
        exact ⟨middle, rfl⟩
  · rw [List.length_append] at fewer
    omega

/-- The ids seen before a step are those of the steps before it, in any order. -/
theorem mem_seen_cons (step : Step) (before : List Step) (seen : List StepId) (id : StepId)
    : id ∈ before.map Step.id ++ step.id :: seen ↔ id ∈ (step :: before).map Step.id ++ seen := by
  simp only [List.mem_append, List.mem_cons, List.map_cons, List.cons_append]
  tauto

/-- Where no violation is found, no step has one; by induction over the list. -/
theorem not_violates_of_stepsViolation? {seen : List StepId} {steps : List Step}
    (sound : stepsViolation? seen steps = none) {before behind : List Step} {step : Step}
    (listed : steps = before ++ step :: behind) {turn : Nat} {error : DocumentError}
    : ¬step.Violates (before.map Step.id ++ seen) turn error := by
  induction before generalizing seen steps with
  | nil =>
      subst listed
      rw [List.nil_append, stepsViolation?] at sound
      split at sound
      · simp at sound
      · next here => exact Step.not_violates_of_none here
  | cons first rest ih =>
      subst listed
      rw [List.cons_append, stepsViolation?] at sound
      split at sound
      · simp at sound
      · rw [← Step.violates_congr (mem_seen_cons first rest seen)]
        exact ih sound rfl

/-- The violation that is found is that of a step behind sound ones, and the first of this step; by
induction over the list.
-/
theorem stepsViolation?_eq_some {seen : List StepId} {steps : List Step} {error : DocumentError}
    (violated : stepsViolation? seen steps = some error)
    : ∃ before step behind turn,
        steps = before ++ step :: behind
        ∧ stepsViolation? seen before = none
        ∧ step.Violates (before.map Step.id ++ seen) turn error
        ∧ ∀ earlier < turn, ∀ other,
            ¬step.Violates (before.map Step.id ++ seen) earlier other := by
  induction steps generalizing seen with
  | nil => simp [stepsViolation?] at violated
  | cons first rest ih =>
      rw [stepsViolation?] at violated
      split at violated
      · next here =>
          obtain rfl := Option.some.inj violated
          obtain ⟨turn, violates, others⟩ := Step.violation?_eq_some here
          exact ⟨[], first, rest, turn, rfl, rfl, violates, others⟩
      · next sound =>
          obtain ⟨before, step, behind, turn, rfl, none, violates, others⟩ := ih violated
          have seenSame := mem_seen_cons first before seen
          refine ⟨first :: before, step, behind, turn, rfl, ?_,
            (Step.violates_congr seenSame).mp violates, ?_⟩
          · rw [stepsViolation?, sound]
            exact none
          · intro earlier isEarlier other
            rw [← Step.violates_congr seenSame]
            exact others earlier isEarlier other

-----------------------------------------------------------------------------------------
-- Violations of a document
-----------------------------------------------------------------------------------------

/-- A place of a document that can break a rule: a turn of the step at an index of the walk, or the
variable with a key.
-/
inductive Place
  | step (index turn : Nat)
  | binding (key : String)

/-- A place has its turn before another one. -/
inductive Place.Before : Place → Place → Prop
  | earlierStep {index later turn other} (earlier : index < later)
    : Before (.step index turn) (.step later other)
  | sameStep {index turn later} (earlier : turn < later)
    : Before (.step index turn) (.step index later)
  | steps {index turn key} : Before (.step index turn) (.binding key)
  | lesserKey {key greater} (lesser : key < greater) : Before (.binding key) (.binding greater)

theorem Place.before_trichotomy (place other : Place)
    : place.Before other ∨ place = other ∨ other.Before place := by
  cases place with
  | step index turn =>
      cases other with
      | binding key => exact .inl .steps
      | step later otherTurn =>
          rcases Nat.lt_trichotomy index later with less | rfl | more
          · exact .inl (.earlierStep less)
          · rcases Nat.lt_trichotomy turn otherTurn with less | rfl | more
            · exact .inl (.sameStep less)
            · exact .inr (.inl rfl)
            · exact .inr (.inr (.sameStep more))
          · exact .inr (.inr (.earlierStep more))
  | binding key =>
      cases other with
      | step index turn => exact .inr (.inr .steps)
      | binding otherKey =>
          rcases Std.lt_trichotomy key otherKey with less | rfl | more
          · exact .inl (.lesserKey less)
          · exact .inr (.inl rfl)
          · exact .inr (.inr (.lesserKey more))

namespace Document

/-- What is wrong at a place of a document. The index of a step is the number of steps before it. -/
inductive Violates (document : Document) : Place → DocumentError → Prop
  | step {before step behind turn error}
    (listed : listingOf document.steps.steps = before ++ step :: behind)
    (violates : step.Violates (before.map Step.id) turn error)
    : Violates document (.step before.length turn) error
  | owner {key binding} (bound : document.environment.bindings.find? key = some binding)
    (tooLarge : TooLarge binding.owner.value)
    : Violates document (.binding key) (.unsafeInteger .ownerId binding.owner.value)

/-- An error is that of the first place at which anything is wrong. -/
def FirstViolation (document : Document) (error : DocumentError) : Prop :=
  ∃ place,
    document.Violates place error
    ∧ ∀ earlier, earlier.Before place → ∀ other, ¬document.Violates earlier other

theorem violates_step_iff {document : Document} {index turn : Nat} {error : DocumentError}
    : document.Violates (.step index turn) error
      ↔ ∃ before step behind,
          listingOf document.steps.steps = before ++ step :: behind
          ∧ before.length = index
          ∧ step.Violates (before.map Step.id) turn error := by
  constructor
  · rintro ⟨listed, violates⟩
    exact ⟨_, _, _, listed, rfl, violates⟩
  · rintro ⟨before, step, behind, listed, rfl, violates⟩
    exact .step listed violates

/-- A place has one violation at most. -/
theorem Violates.unique {document : Document} {place : Place} {error other : DocumentError}
    (violates : document.Violates place error) (again : document.Violates place other)
    : error = other := by
  cases violates with
  | step listed violates =>
      obtain ⟨_, _, _, otherListed, same, otherViolates⟩ := violates_step_iff.mp again
      obtain ⟨rfl, rest⟩ := List.append_inj (otherListed.symm.trans listed) same
      obtain ⟨rfl, rfl⟩ := List.cons.inj rest
      exact violates.unique otherViolates
  | owner bound _ =>
      cases again with
      | owner otherBound _ =>
          obtain rfl := Option.some.inj (bound.symm.trans otherBound)
          rfl

/-- A document has one first violation at most: of two places one has its turn first. -/
theorem FirstViolation.unique {document : Document} {error other : DocumentError}
    (first : document.FirstViolation error) (again : document.FirstViolation other)
    : error = other := by
  obtain ⟨place, violates, before⟩ := first
  obtain ⟨otherPlace, otherViolates, otherBefore⟩ := again
  rcases place.before_trichotomy otherPlace with less | rfl | more
  · exact absurd violates (otherBefore place less error)
  · exact violates.unique otherViolates
  · exact absurd otherViolates (before otherPlace more other)

/-- Where no step violates anything, no place of a step does. -/
theorem not_violates_step {document : Document}
    (sound : stepsViolation? [] (listingOf document.steps.steps) = none) {index turn : Nat}
    {error : DocumentError}
    : ¬document.Violates (.step index turn) error := by
  intro violates
  obtain ⟨before, step, behind, listed, _, found⟩ := violates_step_iff.mp violates
  rw [← List.append_nil (before.map Step.id)] at found
  exact not_violates_of_stepsViolation? sound listed found

/-- The violation that is found among the steps is the first one. -/
theorem firstViolation_of_steps {document : Document} {error : DocumentError}
    (violated : stepsViolation? [] (listingOf document.steps.steps) = some error)
    : document.FirstViolation error := by
  obtain ⟨before, step, behind, turn, listed, sound, violates, others⟩ :=
    stepsViolation?_eq_some violated
  rw [List.append_nil] at violates others
  refine ⟨_, .step listed violates, fun earlier isBefore other again => ?_⟩
  cases isBefore with
  | earlierStep isEarlier =>
      obtain ⟨front, holder, rest, otherListed, rfl, found⟩ := violates_step_iff.mp again
      obtain ⟨middle, rfl⟩ := exists_middle (otherListed.symm.trans listed) isEarlier
      rw [← List.append_nil (front.map Step.id)] at found
      exact not_violates_of_stepsViolation? sound rfl found
  | sameStep isEarlier =>
      obtain ⟨front, holder, rest, otherListed, same, found⟩ := violates_step_iff.mp again
      obtain ⟨rfl, tail⟩ := List.append_inj (otherListed.symm.trans listed) same
      obtain ⟨rfl, rfl⟩ := List.cons.inj tail
      exact others _ isEarlier _ found

/-- Behind sound steps, the violation that is found among the variables is the first one. -/
theorem firstViolation_of_owners {document : Document} {error : DocumentError}
    (sound : stepsViolation? [] (listingOf document.steps.steps) = none)
    (violated
      : firstUnsafe? (document.environment.bindings.entries.map fun entry =>
          (.ownerId, entry.2.owner.value)) = some error)
    : document.FirstViolation error := by
  obtain ⟨before, field, value, after, listed, rfl, tooLarge, smaller⟩ :=
    firstUnsafe?_eq_some violated
  obtain ⟨front, rest, whole, rfl, tail⟩ := List.map_eq_append_iff.mp listed
  obtain ⟨⟨key, binding⟩, behind, rfl, isHere, _⟩ := List.map_eq_cons_iff.mp tail
  obtain ⟨rfl, rfl⟩ := Prod.mk.inj isHere
  have isBound : document.environment.bindings.find? key = some binding := by
    rw [NameMap.find?_eq_some_iff, whole]
    simp
  refine ⟨_, .owner isBound tooLarge, fun earlier isBefore other again => ?_⟩
  cases isBefore with
  | steps => exact not_violates_step sound again
  | lesserKey lesser =>
      cases again with
      | owner otherBound otherLarge =>
          have sorted := document.environment.bindings.sorted
          rw [NamesSorted, whole, List.pairwise_append, List.pairwise_cons] at sorted
          rw [NameMap.find?_eq_some_iff, whole, List.mem_append, List.mem_cons] at otherBound
          rcases otherBound with isFront | same | isBehind
          · exact smaller _ (List.mem_map_of_mem isFront) otherLarge
          · obtain ⟨rfl, rfl⟩ := Prod.mk.inj same
            exact String.lt_irrefl _ lesser
          · exact String.lt_asymm lesser (sorted.2.1.1 _ isBehind)

theorem violation?_eq (document : Document)
    : document.violation?
      = (stepsViolation? [] (listingOf document.steps.steps)).or
          (firstUnsafe? (document.environment.bindings.entries.map fun entry =>
            (.ownerId, entry.2.owner.value))) := by
  rw [violation?, StepTree.toList_eq]

/-- The violation that is found is the first one. -/
theorem firstViolation_of_violation? {document : Document} {error : DocumentError}
    (violated : document.violation? = some error)
    : document.FirstViolation error := by
  rw [violation?_eq] at violated
  rcases Option.or_eq_some_iff.mp violated with steps | ⟨sound, owners⟩
  · exact firstViolation_of_steps steps
  · exact firstViolation_of_owners sound owners

/-- Nothing is wrong with a document in which no violation is found. -/
theorem not_violates_of_none {document : Document} (sound : document.violation? = none)
    {place : Place} {error : DocumentError}
    : ¬document.Violates place error := by
  intro violates
  rw [violation?_eq] at sound
  obtain ⟨steps, owners⟩ := Option.or_eq_none_iff.mp sound
  cases violates with
  | step listed violates => exact not_violates_step steps (.step listed violates)
  | owner bound tooLarge =>
      rw [NameMap.find?_eq_some_iff] at bound
      have inRange := (firstUnsafe?_eq_none_iff _).mp owners _ (List.mem_map_of_mem bound)
      exact (not_tooLarge_iff _).mpr inRange tooLarge

theorem violation?_eq_some_iff {document : Document} {error : DocumentError}
    : document.violation? = some error ↔ document.FirstViolation error := by
  refine ⟨firstViolation_of_violation?, fun first => ?_⟩
  cases found : document.violation? with
  | none =>
      obtain ⟨place, violates, _⟩ := first
      exact absurd violates (not_violates_of_none found)
  | some other => rw [(firstViolation_of_violation? found).unique first]

/-- An id that is told to be used more than once stands for two steps at least. -/
theorem FirstViolation.two_le_count {document : Document} {id : StepId}
    (first : document.FirstViolation (.duplicateStepId id))
    : 2 ≤ ((listingOf document.steps.steps).map Step.id).count id := by
  obtain ⟨place, violates, _⟩ := first
  cases violates with
  | @step before step behind _ _ listed violates =>
      cases violates with
      | repeated again =>
          have earlier : 0 < (before.map Step.id).count step.id := List.count_pos_iff.mpr again
          rw [listed, List.map_append, List.map_cons, List.count_append, List.count_cons_self]
          omega

/-- A text that decodes to a document is accepted exactly if all ids of its steps differ and all its
integers are below 2^53; else the error is that of the first violation, and an id is only told
to be used more than once if two steps have it.
-/
theorem read_reports_first {text : String} {document : Document}
    (decoded : decode? text = some document)
    : ((∃ accepted, read text = .ok accepted)
        ↔ ((listingOf document.steps.steps).map Step.id).Nodup
          ∧ (∀ step ∈ listingOf document.steps.steps,
              step.id.value.toNat ≤ Number.twoTo 53 - 1
              ∧ ∀ place field value,
                  step.Integer place field value → value.toNat ≤ Number.twoTo 53 - 1)
          ∧ ∀ key binding,
              document.environment.bindings.find? key = some binding
              → binding.owner.value.toNat ≤ Number.twoTo 53 - 1)
      ∧ (∀ error, read text = .error error ↔ document.FirstViolation error)
      ∧ ∀ id,
          read text = .error (.duplicateStepId id)
          → 2 ≤ ((listingOf document.steps.steps).map Step.id).count id := by
  have errors (error : DocumentError)
      : read text = .error error ↔ document.FirstViolation error := by
    rw [← violation?_eq_some_iff, read, decoded]
    cases found : document.violation? <;> simp [found]
  refine ⟨?_, errors, fun id refused => ((errors _).mp refused).two_le_count⟩
  have small (value : UInt64) : value.toNat ≤ Number.twoTo 53 - 1 ↔ value ≤ largestSafe := by
    rw [← not_tooLarge_iff, TooLarge, Nat.not_lt]
  have accepts : (∃ accepted, read text = .ok accepted) ↔ document.Valid := by
    simp only [read_eq_ok_iff, decoded, Option.some.injEq, exists_eq_left']
  simp only [accepts, small, ← Step.integers_getElem?, NameMap.find?_eq_some_iff]
  rw [← StepTree.toList_eq]
  constructor
  · intro valid
    refine ⟨valid.distinctIds, fun step listed => ⟨valid.safeIds step listed, ?_⟩, ?_⟩
    · intro place field value isInteger
      exact valid.safeIntegers step listed _ (List.mem_of_getElem? isInteger)
    · intro key binding bound
      exact valid.safeOwners _ bound
  · rintro ⟨distinct, safe, owners⟩
    refine ⟨distinct, fun step listed => (safe step listed).1, ?_, ?_⟩
    · rintro step listed ⟨field, value⟩ isInteger
      obtain ⟨place, isPlace⟩ := List.getElem?_of_mem isInteger
      exact (safe step listed).2 place field value isPlace
    · rintro ⟨key, binding⟩ bound
      exact owners key binding bound

/-- A document with a step in the body of a cycle that has the id of the cycle and sleeps too long,
and with a variable whose owner's id is too large.
-/
def manyFaults : Document :=
  ⟨⟨"T", ⟨⟨2024, 5, 6, 7, 8, 9, 0⟩, by decide⟩⟩,
    ⟨[.statement ⟨1⟩ (.cycle "rows" "row") [.action ⟨1⟩ (.sleep 0x20000000000000)]]⟩,
    Environment.empty.set "v" ⟨⟨0x20000000000000⟩, .value, .null⟩⟩

theorem decode?_manyFaults : decode? manyFaults.print = some manyFaults := by
  have bindings
      : manyFaults.environment.bindings.entries
        = [("v", ⟨⟨0x20000000000000⟩, .value, .null⟩)] :=
    rfl
  have stored : manyFaults.environment.Stored := by
    refine ⟨rfl, fun entry listed => ?_⟩
    rw [bindings, List.mem_singleton] at listed
    subst listed
    exact ⟨by decide, VariableValue.stored_null⟩
  refine (decode?_print_iff stored).mpr ⟨?_, fun number listed => ?_⟩
  · exact Nat.le_of_ble_eq_true rfl
  · rw [Environment.numbers, bindings] at listed
    exact absurd listed List.not_mem_nil

/-- Of the three faults, the repeated id is the first. -/
theorem read_reports_first_repeated
    : decode? manyFaults.print = some manyFaults
      ∧ read manyFaults.print = .error (.duplicateStepId ⟨1⟩)
      ∧ manyFaults.FirstViolation (.duplicateStepId ⟨1⟩)
      ∧ 2 ≤ ((listingOf manyFaults.steps.steps).map Step.id).count ⟨1⟩ := by
  have first : manyFaults.FirstViolation (.duplicateStepId ⟨1⟩) := by
    rw [← violation?_eq_some_iff, violation?_eq]
    decide
  obtain ⟨_, errors, repeated⟩ := read_reports_first decode?_manyFaults
  have refused := (errors _).mpr first
  exact ⟨decode?_manyFaults, refused, first, repeated _ refused⟩

end Document

end DesktopAutomation
