import DesktopAutomation.Proofs.Tree.Pruning

/-! Taking one step out of a tree with unique ids. What goes is the step that a search finds, with
all within it. What holds this step is left without it, and all else is found as before, in the same
order.
-/

namespace DesktopAutomation

theorem listingOf_alone (step : Step) : listingOf [step] = step.listing := by
  rw [listingOf, listingOf, List.append_nil]

theorem Cut.mem_listingOf {step : Step} {steps left : List Step} (cut : Cut [step] steps left)
    : step ∈ listingOf steps :=
  cut.listed (List.mem_append_left _ (mem_listing step))

/-- Behind a cut, a search for an id that is not gone finds the same step as before, or a statement
out of whose body the steps are gone. By induction on the cut; no id is assumed to be unique.
-/
theorem Cut.find?_cases {gone steps left : List Step} (cut : Cut gone steps left) {id : StepId}
    (stays : id ∉ (listingOf gone).map Step.id)
    : (listingOf left).find? (·.id == id) = (listingOf steps).find? (·.id == id)
      ∨ ∃ stmt body kept,
          (listingOf steps).find? (·.id == id) = some (.statement id stmt body)
          ∧ (listingOf left).find? (·.id == id) = some (.statement id stmt kept)
          ∧ Cut gone body kept := by
  induction cut with
  | here rest =>
      have unfound : (listingOf gone).find? (·.id == id) = none := by
        rw [List.find?_eq_none]
        intro step listed same
        exact stays (List.mem_map.mpr ⟨step, listed, by simpa using same⟩)
      left
      rw [listingOf_append, List.find?_append, unfound, Option.none_or]
  | @within own stmt body kept rest inner ih =>
      simp only [find?_listingOf_statement]
      by_cases same : own = id
      · subst same
        exact .inr ⟨stmt, body, kept, if_pos rfl, if_pos rfl, inner⟩
      · simp only [if_neg same]
        rcases ih with unchanged | ⟨outer, held, left, before, after, cut⟩
        · exact .inl (by rw [unchanged])
        · exact .inr ⟨outer, held, left, by rw [before, Option.some_or],
            by rw [after, Option.some_or], cut⟩
  | behind first later ih =>
      simp only [listingOf, List.find?_append]
      rcases ih with unchanged | ⟨outer, held, left, before, after, cut⟩
      · exact .inl (by rw [unchanged])
      · cases first.listing.find? (·.id == id) with
        | some found => exact .inl rfl
        | none =>
            simp only [Option.none_or]
            exact .inr ⟨outer, held, left, before, after, cut⟩

namespace StepTree

/-- What is left of a tree without one of its steps. -/
structure Extracts (tree : StepTree) (id : StepId) (step : Step) (left : StepTree) : Prop where
  gone : ∀ inner ∈ step.listing.map Step.id, left.contains inner = false
  kept
    : ∀ other,
        tree.contains other = true
        → other ∉ step.listing.map Step.id
        → left.contains other = true
  apart
    : ∀ other,
        other ∉ step.listing.map Step.id
        → ¬tree.Holds other id
        → left.find? other = tree.find? other
  around
    : ∀ other,
        tree.Holds other id
        → ∃ stmt body rest,
            tree.find? other = some (.statement other stmt body)
            ∧ left.find? other = some (.statement other stmt rest)
            ∧ Cut [step] body rest
  ordered
    : ∃ before behind,
        tree.toList.map Step.id = before ++ step.listing.map Step.id ++ behind
        ∧ left.toList.map Step.id = before ++ behind

/-- No step within a step holds it. -/
theorem not_holds_of_within {tree : StepTree} (distinct : (tree.toList.map Step.id).Nodup)
    {step : Step} (listed : step ∈ tree.toList) {other : StepId}
    (within : other ∈ step.listing.map Step.id)
    : ¬tree.Holds other step.id := by
  rintro ⟨outer, isOuter, rfl, holds⟩
  obtain ⟨inner, isInner, same⟩ := List.mem_map.mp within
  rw [toList_eq] at distinct isOuter listed
  have block := listing_sublist listed
  obtain rfl := List.inj_on_of_nodup_map distinct (block.subset isInner) isOuter same
  have once := distinct.sublist (block.map Step.id)
  rw [Step.listing_eq, List.map_cons, List.nodup_cons] at once
  rw [Step.mem_idsWithin] at holds
  rw [Step.listing_eq] at isInner
  apply once.1
  rcases List.mem_cons.mp isInner with rfl | below
  · exact holds
  · exact (body_sublist below).map Step.id |>.subset holds

section Cuts

variable {tree left : StepTree} {step : Step}

theorem mem_toList_of_cut (cut : Cut [step] tree.steps left.steps) : step ∈ tree.toList := by
  rw [toList_eq]
  exact cut.mem_listingOf

/-- The ids of the step stand side by side in the order of a walk, and only they go. -/
theorem ids_of_cut (cut : Cut [step] tree.steps left.steps)
    : ∃ before behind,
        tree.toList.map Step.id = before ++ step.listing.map Step.id ++ behind
        ∧ left.toList.map Step.id = before ++ behind := by
  obtain ⟨before, behind, whole, rest⟩ := cut.gap
  refine ⟨before.map Step.id, behind.map Step.id, ?_, ?_⟩
  · rw [toList_eq, ← bareListing_ids, whole, List.map_append, List.map_append, bareListing_ids,
      listingOf_alone]
  · rw [toList_eq, ← bareListing_ids, rest, List.map_append]

theorem mem_ids_of_cut_iff (distinct : (tree.toList.map Step.id).Nodup)
    (cut : Cut [step] tree.steps left.steps) (other : StepId)
    : other ∈ left.toList.map Step.id
      ↔ other ∈ tree.toList.map Step.id ∧ other ∉ step.listing.map Step.id := by
  obtain ⟨before, behind, whole, rest⟩ := ids_of_cut cut
  rw [whole, List.append_assoc, List.nodup_append', List.nodup_append'] at distinct
  obtain ⟨-, ⟨-, -, apartBehind⟩, apartBefore⟩ := distinct
  rw [whole, rest, List.mem_append, List.mem_append, List.mem_append]
  constructor
  · rintro (isBefore | isBehind)
    · exact ⟨.inl (.inl isBefore), fun within =>
        apartBefore isBefore (List.mem_append_left _ within)⟩
    · exact ⟨.inr isBehind, fun within => apartBehind within isBehind⟩
  · rintro ⟨present, stays⟩
    exact present.imp_left fun early => early.resolve_right stays

/-- A search for an id that stays finds the same step as before, or one whose body was cut. -/
theorem find?_cases_of_cut (cut : Cut [step] tree.steps left.steps) {other : StepId}
    (stays : other ∉ step.listing.map Step.id)
    : left.find? other = tree.find? other
      ∨ ∃ stmt body rest,
          tree.find? other = some (.statement other stmt body)
          ∧ left.find? other = some (.statement other stmt rest)
          ∧ Cut [step] body rest := by
  rw [find?, find?, toList_eq, toList_eq]
  exact cut.find?_cases (listingOf_alone step ▸ stays)

/-- A step that holds what is cut out of the tree has it cut out of its body. -/
theorem find?_of_cut_of_holds (distinct : (tree.toList.map Step.id).Nodup)
    (cut : Cut [step] tree.steps left.steps) {other : StepId} (holds : tree.Holds other step.id)
    : ∃ stmt body rest,
        tree.find? other = some (.statement other stmt body)
        ∧ left.find? other = some (.statement other stmt rest)
        ∧ Cut [step] body rest := by
  have stays : other ∉ step.listing.map Step.id := fun within =>
    not_holds_of_within distinct (mem_toList_of_cut cut) within holds
  rcases find?_cases_of_cut cut stays with unchanged | changed
  · -- a holder that is as before would still hold the step
    obtain ⟨outer, isOuter, rfl, isWithin⟩ := holds
    have found := unchanged.trans (find?_of_mem distinct isOuter)
    have stillListed := List.mem_of_find?_eq_some found
    rw [toList_eq] at stillListed
    rw [Step.mem_idsWithin] at isWithin
    have stillThere := ((body_sublist stillListed).map Step.id).subset isWithin
    rw [← toList_eq, mem_ids_of_cut_iff distinct cut] at stillThere
    exact absurd (List.mem_map_of_mem (mem_listing step)) stillThere.2
  · exact changed

/-- A step that neither goes nor holds what goes is found as before. -/
theorem find?_of_cut_of_not_holds (distinct : (tree.toList.map Step.id).Nodup)
    (cut : Cut [step] tree.steps left.steps) {other : StepId}
    (stays : other ∉ step.listing.map Step.id) (unholding : ¬tree.Holds other step.id)
    : left.find? other = tree.find? other := by
  rcases find?_cases_of_cut cut stays with unchanged | ⟨stmt, body, rest, found, -, inner⟩
  · exact unchanged
  · have isWithin : step.id ∈ (Step.statement other stmt body).idsWithin := by
      rw [Step.mem_idsWithin]
      exact List.mem_map_of_mem inner.mem_listingOf
    exact absurd ((holds_iff distinct found _).mpr isWithin) unholding

/-- A cut that takes one step out of a tree with unique ids leaves all else as it was. -/
theorem extracts_of_cut (distinct : (tree.toList.map Step.id).Nodup)
    (cut : Cut [step] tree.steps left.steps)
    : tree.Extracts step.id step left where
  gone inner within := by
    rw [← Bool.not_eq_true, contains_iff, mem_ids_of_cut_iff distinct cut]
    exact fun stays => stays.2 within
  kept other present stays := by
    rw [contains_iff] at present
    rw [contains_iff, mem_ids_of_cut_iff distinct cut]
    exact ⟨present, stays⟩
  apart _ stays unholding := find?_of_cut_of_not_holds distinct cut stays unholding
  around _ holds := find?_of_cut_of_holds distinct cut holds
  ordered := ids_of_cut cut

end Cuts

/-- Where ids are unique, a removal takes out the step that a search by the id finds. No id within
it is left, and all other ids are. Steps that hold it lose it from their bodies and nothing else,
all other steps are found unchanged, and what is left keeps its order.
-/
theorem remove?_extracts {tree : StepTree} (distinct : (tree.toList.map Step.id).Nodup)
    {id : StepId} (present : tree.contains id = true)
    : ∃ step left,
        tree.find? id = some step
        ∧ tree.remove? id = some (step, left)
        ∧ tree.Extracts id step left := by
  have removable := (tree.remove?_isSome id).trans present
  obtain ⟨⟨step, left⟩, removed⟩ := Option.isSome_iff_exists.mp removable
  obtain ⟨rfl, cut⟩ := remove?_takenOut removed
  have found := find?_of_mem distinct (mem_toList_of_cut cut)
  exact ⟨step, left, found, removed, extracts_of_cut distinct cut⟩

/-- A cycle is taken out of the body of another one, with the step in its own body. -/
theorem remove?_extracts_nested
    : let sleep (id : UInt64) : Step := .action ⟨id⟩ (.sleep 0)
      let cycle (id : UInt64) (body : List Step) : Step :=
        .statement ⟨id⟩ (.cycle "rows" "row") body
      let step := cycle 4 [sleep 5]
      let tree : StepTree := ⟨[sleep 1, cycle 2 [sleep 3, step, sleep 6], sleep 7]⟩
      let left : StepTree := ⟨[sleep 1, cycle 2 [sleep 3, sleep 6], sleep 7]⟩
      (tree.toList.map Step.id).Nodup
      ∧ tree.contains ⟨4⟩ = true
      ∧ tree.find? ⟨4⟩ = some step
      ∧ tree.remove? ⟨4⟩ = some (step, left)
      ∧ tree.Extracts ⟨4⟩ step left := by
  intro sleep cycle step tree left
  have distinct : (tree.toList.map Step.id).Nodup := by decide +kernel
  have present : tree.contains ⟨4⟩ = true := by decide +kernel
  have removed : tree.remove? ⟨4⟩ = some (step, left) := by decide +kernel
  obtain ⟨taken, rest, found, takenOut, extracts⟩ := remove?_extracts distinct present
  obtain ⟨rfl, rfl⟩ := Prod.mk.inj (Option.some.inj (takenOut.symm.trans removed))
  exact ⟨distinct, present, found, removed, extracts⟩

end StepTree

end DesktopAutomation
