import DesktopAutomation.Proofs.Tree.Nesting

/-! Taking steps out of a tree, told by their ids alone. Where ids are unique, to cut out some steps
is to prune all steps with their ids, wherever they are; and pruning does not depend on an order.
-/

namespace DesktopAutomation

mutual

/-- The step without the steps within it that have one of some ids. -/
def Step.pruned (ids : List StepId) : Step → Step
  | .action id act => .action id act
  | .statement id stmt body => .statement id stmt (prunedAll ids body)

/-- The steps without those, here or within, that have one of some ids. -/
def prunedAll (ids : List StepId) : List Step → List Step
  | [] => []
  | step :: rest =>
    if step.id ∈ ids then prunedAll ids rest else Step.pruned ids step :: prunedAll ids rest

end

theorem prunedAll_action (ids : List StepId) (id : StepId) (act : Action) (rest : List Step)
    : prunedAll ids (.action id act :: rest)
      = if id ∈ ids then prunedAll ids rest else .action id act :: prunedAll ids rest := by
  rw [prunedAll, Step.pruned, Step.action_id]

theorem prunedAll_statement (ids : List StepId) (id : StepId) (stmt : Statement)
    (body rest : List Step)
    : prunedAll ids (.statement id stmt body :: rest)
      = if id ∈ ids then prunedAll ids rest
        else .statement id stmt (prunedAll ids body) :: prunedAll ids rest := by
  rw [prunedAll, Step.pruned, Step.statement_id]

theorem prunedAll_append (ids : List StepId) (before after : List Step)
    : prunedAll ids (before ++ after) = prunedAll ids before ++ prunedAll ids after := by
  induction before with
  | nil => rfl
  | cons step rest ih =>
      rw [List.cons_append, prunedAll, prunedAll, ih]
      split <;> rfl

/-- Steps that all have one of the ids are pruned with all within them. -/
theorem prunedAll_eq_nil {ids : List StepId} {steps : List Step}
    (all : ∀ step ∈ steps, step.id ∈ ids)
    : prunedAll ids steps = [] := by
  induction steps with
  | nil => rfl
  | cons step rest ih =>
      obtain ⟨first, others⟩ := List.forall_mem_cons.mp all
      rw [prunedAll, if_pos first, ih others]

/-- Steps of which none has one of the ids stay as they are. -/
theorem prunedAll_of_not_mem {ids : List StepId} {steps : List Step}
    (none : ∀ step ∈ listingOf steps, step.id ∉ ids)
    : prunedAll ids steps = steps := by
  induction steps using steps_induction with
  | nil => rfl
  | action id act rest ih =>
      obtain ⟨(own : id ∉ ids), others⟩ := List.forall_mem_cons.mp none
      rw [prunedAll_action, if_neg own, ih others]
  | statement id stmt body rest bodyIH restIH =>
      rw [listingOf_statement] at none
      obtain ⟨(own : id ∉ ids), others⟩ := List.forall_mem_cons.mp none
      obtain ⟨inBody, inRest⟩ := List.forall_mem_append.mp others
      rw [prunedAll_statement, if_neg own, bodyIH inBody, restIH inRest]

/-- To prune twice is to prune the ids of both at once. -/
theorem prunedAll_prunedAll (ids more : List StepId) (steps : List Step)
    : prunedAll more (prunedAll ids steps) = prunedAll (ids ++ more) steps := by
  induction steps using steps_induction with
  | nil => rfl
  | action id act rest ih =>
      rw [prunedAll_action, prunedAll_action, ← ih]
      by_cases first : id ∈ ids
      · simp [first]
      · simp [first, prunedAll_action]
  | statement id stmt body rest bodyIH restIH =>
      rw [prunedAll_statement, prunedAll_statement, ← bodyIH, ← restIH]
      by_cases first : id ∈ ids
      · simp [first]
      · simp [first, prunedAll_statement]

/-- The order of the ids does not matter. -/
theorem prunedAll_perm {ids others : List StepId} (same : ids.Perm others) (steps : List Step)
    : prunedAll ids steps = prunedAll others steps := by
  induction steps using steps_induction with
  | nil => rfl
  | action id act rest ih => simp only [prunedAll_action, ih, same.mem_iff]
  | statement id stmt body rest bodyIH restIH =>
      simp only [prunedAll_statement, bodyIH, restIH, same.mem_iff]

-----------------------------------------------------------------------------------------
-- Cuts
-----------------------------------------------------------------------------------------

namespace Cut
variable {gone steps left : List Step}

theorem mem_ids (cut : Cut gone steps left) {id : StepId} (isGone : id ∈ gone.map Step.id)
    : id ∈ (listingOf steps).map Step.id := by
  obtain ⟨step, member, rfl⟩ := List.mem_map.mp isGone
  exact List.mem_map_of_mem (cut.listed (mem_listingOf_of_mem member (mem_listing step)))

theorem ids_sublist (cut : Cut gone steps left)
    : ((listingOf left).map Step.id).Sublist ((listingOf steps).map Step.id) := by
  obtain ⟨before, after, whole, rest⟩ := cut.gap
  rw [← bareListing_ids, ← bareListing_ids, whole, rest, List.append_assoc]
  exact ((List.Sublist.refl before).append (List.sublist_append_right _ _)).map _

/-- Where ids are unique, a cut prunes the ids of the steps that are gone. -/
theorem eq_prunedAll (cut : Cut gone steps left)
    (distinct : ((listingOf steps).map Step.id).Nodup)
    : left = prunedAll (gone.map Step.id) steps := by
  -- steps apart from the part that is cut have none of the ids
  have stays {others part : List Step}
      (apart : ((listingOf others).map Step.id).Disjoint ((listingOf part).map Step.id))
      (within : ∀ id ∈ gone.map Step.id, id ∈ (listingOf part).map Step.id)
      : prunedAll (gone.map Step.id) others = others :=
    prunedAll_of_not_mem fun step listed isGone =>
      apart (List.mem_map_of_mem listed) (within _ isGone)
  induction cut with
  | here rest =>
      rw [listingOf_append, List.map_append, List.nodup_append'] at distinct
      obtain ⟨-, -, apart⟩ := distinct
      have kept := stays (List.disjoint_comm.mp apart) fun _ isGone => (cut_all gone).mem_ids isGone
      rw [prunedAll_append, prunedAll_eq_nil fun step member => List.mem_map_of_mem member,
        List.nil_append, kept]
  | @within id stmt body left rest cut ih =>
      rw [listingOf_statement, List.map_cons, List.map_append, List.nodup_cons,
        List.mem_append, not_or, List.nodup_append', Step.statement_id] at distinct
      obtain ⟨⟨notInBody, -⟩, bodyDistinct, -, apart⟩ := distinct
      rw [prunedAll_statement, if_neg fun isGone => notInBody (cut.mem_ids isGone),
        ← ih bodyDistinct, stays (List.disjoint_comm.mp apart) fun _ isGone => cut.mem_ids isGone]
  | @behind rest left step cut ih =>
      rw [← List.singleton_append, listingOf_append, List.map_append, List.nodup_append']
        at distinct
      obtain ⟨-, restDistinct, apart⟩ := distinct
      have first := stays apart fun _ isGone => cut.mem_ids isGone
      rw [← List.singleton_append (l := rest), prunedAll_append, first, ← ih restDistinct,
        List.singleton_append]

/-- What is left of a step after a cut holds no more ids than before. -/
theorem former_of_left (cut : Cut gone steps left) {step : Step} (listed : step ∈ listingOf left)
    : ∃ former ∈ listingOf steps, former.id = step.id ∧ step.idsWithin ⊆ former.idsWithin := by
  induction cut with
  | here rest =>
      refine ⟨step, ?_, rfl, List.Subset.refl _⟩
      rw [listingOf_append]
      exact List.mem_append_right _ listed
  | @within id stmt body left rest cut ih =>
      rw [listingOf_statement] at listed
      rcases List.mem_cons.mp listed with rfl | lower
      · refine ⟨.statement id stmt body, ?_, rfl, fun inner within => ?_⟩
        · exact mem_listingOf_of_mem List.mem_cons_self (mem_listing _)
        · rw [Step.mem_idsWithin] at within ⊢
          exact cut.ids_sublist.subset within
      · rw [listingOf_statement]
        rcases List.mem_append.mp lower with inBody | inRest
        · obtain ⟨former, member, same⟩ := ih inBody
          exact ⟨former, List.mem_cons_of_mem _ (List.mem_append_left _ member), same⟩
        · refine ⟨step, ?_, rfl, List.Subset.refl _⟩
          exact List.mem_cons_of_mem _ (List.mem_append_right _ inRest)
  | behind first cut ih =>
      rw [listingOf] at listed ⊢
      rcases List.mem_append.mp listed with inFirst | inRest
      · exact ⟨step, List.mem_append_left _ inFirst, rfl, List.Subset.refl _⟩
      · obtain ⟨former, member, same⟩ := ih inRest
        exact ⟨former, List.mem_append_right _ member, same⟩

/-- An id stays if no step that is gone has it, nor one within these. -/
theorem id_left (cut : Cut gone steps left) {id : StepId}
    (present : id ∈ (listingOf steps).map Step.id) (stays : id ∉ (listingOf gone).map Step.id)
    : id ∈ (listingOf left).map Step.id := by
  rw [← bareListing_ids, (cut.perm.map Step.id).mem_iff, List.map_append, List.mem_append,
    bareListing_ids, bareListing_ids] at present
  exact present.resolve_left stays

end Cut

-----------------------------------------------------------------------------------------
-- Putting in and taking out
-----------------------------------------------------------------------------------------

/-- A step that neither has an id nor holds it is passed by on the way to a step with the id. -/
theorem takeStep?_behind {id : StepId} {step : Step} (absent : id ∉ step.listing.map Step.id)
    (rest : List Step)
    : takeStep? id (step :: rest)
      = (takeStep? id rest).map fun parts => (parts.1, step :: parts.2) := by
  rw [Step.listing_eq, List.map_cons, List.mem_cons, not_or] at absent
  obtain ⟨differs, notWithin⟩ := absent
  cases step with
  | action own act =>
      rw [takeStep?, takeSibling?, if_neg (Ne.symm differs), takeBelow?_action, takeStep?,
        Option.map_or]
  | statement own stmt body =>
      have notInBody : takeStep? id body = none := by
        rw [← Option.not_isSome_iff_eq_none, takeStep?_isSome, List.find?_isSome]
        rintro ⟨other, listed, same⟩
        exact notWithin (List.mem_map.mpr ⟨other, listed, by simpa using same⟩)
      rw [takeStep?, takeSibling?, if_neg (Ne.symm differs), takeBelow?_statement, notInBody,
        takeStep?, Option.map_or]

theorem takeSibling?_of_not_mem {id : StepId} {steps : List Step}
    (absent : id ∉ (listingOf steps).map Step.id)
    : takeSibling? id steps = none := by
  cases found : takeSibling? id steps with
  | none => rfl
  | some parts =>
      have out := takeSibling?_takenOut found
      exact absurd (List.mem_map.mpr ⟨parts.1, out.listed, out.own⟩) absent

/-- A step whose id is not used around it is taken out from where it can be cut out alone: no other
step can be taken for it, whether a sibling or one in the bodies before it. By induction on the cut.
-/
theorem takeStep?_of_cut {step : Step} {steps left : List Step} (cut : Cut [step] steps left)
    (unused : step.id ∉ (listingOf left).map Step.id)
    : takeStep? step.id steps = some (step, left) := by
  induction cut with
  | here rest => rw [List.singleton_append, takeStep?, takeSibling?, if_pos rfl, Option.some_or]
  | @within id stmt body left rest inner ih =>
      rw [listingOf_statement, List.map_cons, List.map_append, List.mem_cons, List.mem_append,
        not_or, not_or, Step.statement_id] at unused
      obtain ⟨differs, notInBody, notInRest⟩ := unused
      have noSibling : takeSibling? step.id (.statement id stmt body :: rest) = none := by
        rw [takeSibling?, Step.statement_id, if_neg (Ne.symm differs),
          takeSibling?_of_not_mem notInRest, Option.map_none]
      rw [takeStep?, noSibling, Option.none_or, takeBelow?_statement, ih notInBody]
  | behind first later ih =>
      rw [listingOf, List.map_append, List.mem_append, not_or] at unused
      rw [takeStep?_behind unused.1, ih unused.2, Option.map_some]

namespace StepTree

/-- A step that is put in can be cut out again, which leaves the tree as it was. -/
theorem insert?_cut {tree after : StepTree} {step : Step} {parent : Option StepId}
    (inserted : tree.insert? step parent = some after)
    : Cut [step] after.steps tree.steps := by
  have last (siblings : List Step) : Cut [step] (siblings ++ [step]) siblings := by
    have alone : Cut [step] [step] [] := .here []
    simpa using alone.behindAll siblings
  rw [insert?] at inserted
  cases parent with
  | none =>
      obtain rfl := Option.some.inj inserted
      exact last tree.steps
  | some id =>
      rw [editSiblings?] at inserted
      split at inserted
      · next isContainer =>
          obtain ⟨steps, changed, rfl⟩ := Option.map_eq_some_iff.mp inserted
          obtain ⟨old, found, exchange⟩ := editFirst?_exchange changed
          rw [find?, toList_eq, found] at isContainer
          cases old with
          | action own act => simp [Step.isContainer, Step.body?] at isContainer
          | statement own stmt body => exact exchange.symm.cut (last body)
      · simp at inserted

/-- Where ids are unique, a removal takes out the step that can be cut out alone. -/
theorem remove?_of_cut {tree left : StepTree} {step : Step}
    (distinct : (tree.toList.map Step.id).Nodup) (cut : Cut [step] tree.steps left.steps)
    : tree.remove? step.id = some (step, left) := by
  have unused : step.id ∉ (listingOf left.steps).map Step.id := by
    rw [toList_eq, ← bareListing_ids, (cut.perm.map Step.id).nodup_iff, List.map_append,
      bareListing_ids, bareListing_ids, List.nodup_append'] at distinct
    exact distinct.2.2 (List.mem_map_of_mem (List.mem_append_left _ (mem_listing step)))
  rw [remove?, takeStep?_of_cut cut unused, Option.map_some]

end StepTree

end DesktopAutomation
