import DesktopAutomation.Proofs.Tree.Lookup
import DesktopAutomation.Proofs.Tree.Position

/-! Steps within steps. A step that is exchanged for another version leaves the rest of the tree
alone: what is not below it keeps its place, and what does not hold it stays as it is.
-/

namespace DesktopAutomation

/-- The ids of all steps within a step. -/
def Step.idsWithin (step : Step) : List StepId := (walk (step.body?.getD [])).map Step.id

theorem Step.mem_idsWithin {step : Step} {id : StepId}
    : id ∈ step.idsWithin ↔ id ∈ (listingOf (step.body?.getD [])).map Step.id := by
  rw [idsWithin, walk_eq_listingOf]

/-- The step with the first id holds the step with the second one within its body, at any depth. -/
def StepTree.Holds (tree : StepTree) (outer inner : StepId) : Prop :=
  ∃ step ∈ tree.toList, step.id = outer ∧ inner ∈ step.idsWithin

theorem Step.pathTo?_eq (id : StepId) (step : Step)
    : step.pathTo? id
      = if step.id = id then some [] else DesktopAutomation.pathTo? id 0 (step.body?.getD []) := by
  cases step with
  | action own act => rw [Step.pathTo?]; rfl
  | statement own stmt body => rw [Step.pathTo?]; rfl

/-- A step is listed as a block, with all steps within it. -/
theorem listing_sublist {step : Step} {steps : List Step} (listed : step ∈ listingOf steps)
    : step.listing.Sublist (listingOf steps) := by
  induction steps using steps_induction with
  | nil => exact absurd listed List.not_mem_nil
  | action id act rest ih =>
      rw [listingOf_action] at listed ⊢
      rcases List.mem_cons.mp listed with rfl | inRest
      · exact .cons_cons _ (List.nil_sublist _)
      · exact (ih inRest).cons _
  | statement id stmt body rest bodyIH restIH =>
      rw [listingOf_statement] at listed ⊢
      rcases List.mem_cons.mp listed with rfl | within
      · rw [Step.listing_eq]
        exact .cons_cons _ (List.sublist_append_left _ _)
      · rcases List.mem_append.mp within with inBody | inRest
        · exact ((bodyIH inBody).trans (List.sublist_append_left _ _)).cons _
        · exact ((restIH inRest).trans (List.sublist_append_right _ _)).cons _

/-- What is within a step is listed behind it. -/
theorem body_sublist {step : Step} {steps : List Step} (listed : step ∈ listingOf steps)
    : (listingOf (step.body?.getD [])).Sublist (listingOf steps) := by
  have block := listing_sublist listed
  rw [Step.listing_eq] at block
  exact (List.sublist_cons_self _ _).trans block

namespace StepTree

/-- Where ids are unique, the step that a search finds tells what is held under its id. -/
theorem holds_iff {tree : StepTree} (distinct : (tree.toList.map Step.id).Nodup) {outer : StepId}
    {step : Step} (found : tree.find? outer = some step) (inner : StepId)
    : tree.Holds outer inner ↔ inner ∈ step.idsWithin := by
  obtain rfl : step.id = outer := by simpa using List.find?_some found
  constructor
  · rintro ⟨other, listed, same, within⟩
    obtain rfl := List.inj_on_of_nodup_map distinct listed (List.mem_of_find?_eq_some found) same
    exact within
  · exact fun within => ⟨step, List.mem_of_find?_eq_some found, rfl, within⟩

end StepTree

-----------------------------------------------------------------------------------------
-- Exchanging a step
-----------------------------------------------------------------------------------------

namespace Exchange
variable {old new : Step} {steps edited : List Step}

theorem mem_old (exchange : Exchange old new steps edited) : old ∈ listingOf steps := by
  induction exchange with
  | here rest => exact List.mem_append_left _ (mem_listing old)
  | within rest _ ih =>
      rw [listingOf_statement]
      exact List.mem_cons_of_mem _ (List.mem_append_left _ ih)
  | behind step _ ih => exact List.mem_append_right _ ih

theorem symm (exchange : Exchange old new steps edited) : Exchange new old edited steps := by
  induction exchange with
  | here rest => exact .here rest
  | within rest _ ih => exact ih.within rest
  | behind step _ ih => exact ih.behind step

/-- A search finds the same as before, unless it is for the step exchanged or for one that holds it,
or the two versions hold different steps with the id.
-/
theorem find?_eq (exchange : Exchange old new steps edited) (same : new.id = old.id)
    {other : StepId} (differs : other ≠ old.id)
    (below
      : (listingOf (new.body?.getD [])).find? (·.id == other)
        = (listingOf (old.body?.getD [])).find? (·.id == other))
    (apart : ∀ step ∈ listingOf steps, step.id = other → old.id ∉ step.idsWithin)
    : (listingOf edited).find? (·.id == other) = (listingOf steps).find? (·.id == other) := by
  induction exchange with
  | here rest =>
      have elsewhere : ¬old.id = other := Ne.symm differs
      rw [listingOf, listingOf, Step.listing_eq, Step.listing_eq]
      simp [same, elsewhere, below]
  | @within id stmt body edited rest inner ih =>
      rw [listingOf_statement] at apart
      obtain ⟨outer, others⟩ := List.forall_mem_cons.mp apart
      have holds : id ≠ other := by
        intro isOther
        exact outer isOther (Step.mem_idsWithin.mpr (List.mem_map_of_mem inner.mem_old))
      have inBody := ih fun step member => others step (List.mem_append_left _ member)
      rw [find?_listingOf_statement, find?_listingOf_statement, if_neg holds, if_neg holds, inBody]
  | behind step _ ih =>
      have later := ih fun step member => apart step (List.mem_append_right _ member)
      rw [listingOf, listingOf, List.find?_append, List.find?_append, later]

/-- An id keeps its path, unless the two versions hold it in different places. -/
theorem pathTo?_eq (exchange : Exchange old new steps edited) (same : new.id = old.id)
    {other : StepId}
    (below : pathTo? other 0 (new.body?.getD []) = pathTo? other 0 (old.body?.getD []))
    (first : Nat)
    : pathTo? other first edited = pathTo? other first steps := by
  induction exchange generalizing first with
  | here rest => rw [pathTo?, pathTo?, Step.pathTo?_eq, Step.pathTo?_eq, same, below]
  | within rest _ ih => rw [pathTo?_statement, pathTo?_statement, ih]
  | behind step _ ih => rw [pathTo?, pathTo?, ih]

end Exchange

end DesktopAutomation
