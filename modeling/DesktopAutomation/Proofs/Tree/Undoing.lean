import DesktopAutomation.Proofs.Tree.InPlace
import DesktopAutomation.Proofs.Tree.Pruning

/-! Edits of a tree that take back other edits. What is written to a place is found there again by
the same search, also where steps share ids; so a second edit reaches the place of the first one and
can restore what was there.
-/

namespace DesktopAutomation

-----------------------------------------------------------------------------------------
-- Writing again
-----------------------------------------------------------------------------------------

theorem slot?_of_head {id : StepId} {step : Step} (same : step.id = id) (rest : List Step)
    : slot? id (step :: rest) = some ⟨step, (· :: rest)⟩ := by
  cases step with
  | action own act => exact (slot?_action ..).trans (if_pos same)
  | statement own stmt body => exact (slot?_statement ..).trans (if_pos same)

/-- A step that is written to a slot is found in the same slot, if it has the id: the steps before
it are as they were and have other ids.
-/
theorem slot?_put_of_slot? {id : StepId} {steps : List Step} {slot : Slot (List Step)}
    (found : slot? id steps = some slot) {new : Step} (same : new.id = id)
    : slot? id (slot.put new) = some ⟨new, slot.put⟩ := by
  induction steps using steps_induction generalizing slot with
  | nil => simp [slot?] at found
  | action own act rest ih =>
      rw [slot?_action] at found
      split at found
      · obtain rfl := Option.some.inj found
        exact slot?_of_head same rest
      · next differs =>
          obtain ⟨inner, inRest, rfl⟩ := Option.map_eq_some_iff.mp found
          simp only [Slot.within, slot?_action, if_neg differs, ih inRest, Option.map_some]
  | statement own stmt body rest bodyIH restIH =>
      rw [slot?_statement] at found
      split at found
      · obtain rfl := Option.some.inj found
        exact slot?_of_head same rest
      · next differs =>
          cases within : slot? id body with
          | some inner =>
              rw [within] at found
              obtain rfl := Option.some.inj found
              simp only [Slot.within, slot?_statement, if_neg differs, bodyIH within]
          | none =>
              rw [within] at found
              obtain ⟨inner, inRest, rfl⟩ := Option.map_eq_some_iff.mp found
              simp only [Slot.within, slot?_statement, if_neg differs, within, restIH inRest,
                Option.map_some]

namespace StepTree

/-- Siblings that are written to a container are listed in it, and can be written to again. -/
theorem siblingsSlot?_of_written {tree : StepTree} {container : Option StepId}
    {siblings : List Step} {put : List Step → StepTree}
    (writable : tree.siblingsSlot? container = some (siblings, put)) (others : List Step)
    : (put others).siblingsSlot? container = some (others, put) := by
  cases container with
  | none =>
      obtain ⟨rfl, rfl⟩ := Prod.mk.inj (Option.some.inj writable)
      rfl
  | some id =>
      obtain ⟨own, stmt, write, found, rfl⟩ := siblingsSlot?_of_some writable
      have same : own = id := by
        have isFirst := slot?_step id tree.steps
        rw [found, Option.map_some, eq_comm] at isFirst
        simpa using List.find?_some isFirst
      have again : slot? id (write (.statement own stmt others)) = _ :=
        slot?_put_of_slot? found same
      simp only [siblingsSlot?, Step.withBody, again, Step.body?, Option.bind_eq_bind,
        Option.bind_some, Option.pure_def]

-----------------------------------------------------------------------------------------
-- Taking back
-----------------------------------------------------------------------------------------

/-- Siblings that are listed have a place, and whatever is written to it can be changed there again.
-/
theorem exists_place {tree : StepTree} {container : Option StepId} {siblings : List Step}
    (listed : tree.siblings? container = some siblings)
    : ∃ put : List Step → StepTree,
        put siblings = tree
        ∧ ∀ others edit, (put others).editSiblings? container edit = some (put (edit others)) := by
  obtain ⟨put, writable, same, _⟩ := siblingsSlot?_of_listed listed
  refine ⟨put, same, fun others edit => ?_⟩
  rw [← siblingsSlot?_put, siblingsSlot?_of_written writable others, Option.map_some]

/-- A step that is put into a tree without its id is what a removal by the id takes out. -/
theorem remove?_of_insert? {tree after : StepTree} {step : Step} {parent : Option StepId}
    (unused : tree.contains step.id = false) (inserted : tree.insert? step parent = some after)
    : after.remove? step.id = some (step, tree) := by
  have absent : step.id ∉ (listingOf tree.steps).map Step.id := by
    rw [← toList_eq, ← contains_iff, unused]
    exact Bool.false_ne_true
  rw [remove?, takeStep?_of_cut (insert?_cut inserted) absent, Option.map_some]

/-- The step that was replaced can be put in the place of its replacement. -/
theorem replace?_of_replace? {tree after : StepTree} {id : StepId} {new : Step}
    (replaced : tree.replace? id new = some after)
    : ∃ old, tree.find? id = some old ∧ after.replace? id old = some tree := by
  rw [replace?] at replaced
  split at replaced
  · next sameNew =>
      rw [← slot?_put, Option.map_map] at replaced
      obtain ⟨slot, found, rfl⟩ := Option.map_eq_some_iff.mp replaced
      have isFirst : tree.find? id = some slot.step := by
        rw [find?, toList_eq, ← slot?_step, found, Option.map_some]
      have sameOld : slot.step.id = id := by simpa using List.find?_some isFirst
      have again := slot?_put_of_slot? found sameNew
      have restored := put_step_of_slot? found
      refine ⟨slot.step, isFirst, ?_⟩
      simp [replace?, sameOld, ← slot?_put, again, restored]
  · simp at replaced

/-- Steps that are put one by one behind the siblings of a place stand behind them in this order. -/
theorem foldlM_insert? {container : Option StepId} {put : List Step → StepTree}
    (edits
      : ∀ others edit, (put others).editSiblings? container edit = some (put (edit others)))
    (siblings new : List Step)
    : new.foldlM (fun grown step => grown.insert? step container) (put siblings)
      = some (put (siblings ++ new)) := by
  induction new generalizing siblings with
  | nil => rw [List.foldlM_nil, List.append_nil]; rfl
  | cons step rest ih =>
      rw [List.foldlM_cons, insert?, edits, Option.bind_eq_bind, Option.bind_some, ih,
        List.append_assoc, List.singleton_append]

/-- Steps that were cleared away can be put back one by one. -/
theorem foldlM_insert?_of_clear? {tree left : StepTree} {container : Option StepId}
    {removed : List Step} (cleared : tree.clear? container = some (removed, left))
    : removed.foldlM (fun grown step => grown.insert? step container) left = some tree := by
  obtain ⟨siblings, listed, cleared⟩ := Option.bind_eq_some_iff.mp cleared
  obtain ⟨emptied, edited, parts⟩ := Option.bind_eq_some_iff.mp cleared
  obtain ⟨rfl, rfl⟩ := Prod.mk.inj (Option.some.inj parts)
  obtain ⟨put, rfl, edits⟩ := exists_place listed
  rw [edits] at edited
  obtain rfl := Option.some.inj edited
  rw [foldlM_insert? edits, List.nil_append]

/-- Edits that applied can be taken back, on every tree: an insertion of a step whose id was not in
use by a removal, a replacement by the replacement with the old step, and a clearing by insertions
of what was cleared away.
-/
theorem edits_undone (tree : StepTree)
    : (∀ step parent after,
        tree.contains step.id = false
        → tree.insert? step parent = some after
        → after.remove? step.id = some (step, tree))
      ∧ (∀ id new after,
          tree.replace? id new = some after
          → ∃ old, tree.find? id = some old ∧ after.replace? id old = some tree)
      ∧ ∀ container removed left,
          tree.clear? container = some (removed, left)
          → removed.foldlM (fun grown step => grown.insert? step container) left = some tree :=
  ⟨fun _ _ _ unused inserted => remove?_of_insert? unused inserted,
    fun _ _ _ replaced => replace?_of_replace? replaced,
    fun _ _ _ cleared => foldlM_insert?_of_clear? cleared⟩

/-- Ids repeat in the tree, and the step that is put in holds its own id and one of the tree. -/
theorem edits_undone_repeated
    : let sleep (id : UInt64) : Step := .action ⟨id⟩ (.sleep 0)
      let cycle (id : UInt64) (body : List Step) : Step :=
        .statement ⟨id⟩ (.cycle "rows" "row") body
      let tree : StepTree := ⟨[cycle 2 [sleep 3, cycle 2 [sleep 5]], sleep 3]⟩
      let step := cycle 7 [sleep 7, sleep 2]
      let grown : StepTree := ⟨[cycle 2 [sleep 3, cycle 2 [sleep 5], step], sleep 3]⟩
      let new := cycle 3 [sleep 3]
      let replaced : StepTree := ⟨[cycle 2 [new, cycle 2 [sleep 5]], sleep 3]⟩
      let removed := [sleep 3, cycle 2 [sleep 5]]
      let emptied : StepTree := ⟨[cycle 2 [], sleep 3]⟩
      (tree.contains step.id = false
        ∧ tree.insert? step (some ⟨2⟩) = some grown
        ∧ grown.remove? step.id = some (step, tree))
      ∧ (tree.replace? ⟨3⟩ new = some replaced
        ∧ ∃ old, tree.find? ⟨3⟩ = some old ∧ replaced.replace? ⟨3⟩ old = some tree)
      ∧ (tree.clear? (some ⟨2⟩) = some (removed, emptied)
        ∧ removed.foldlM (fun grown step => grown.insert? step (some ⟨2⟩)) emptied
          = some tree) := by
  intro sleep cycle tree step grown new replaced removed emptied
  have unused : tree.contains step.id = false := by decide +kernel
  have inserted : tree.insert? step (some ⟨2⟩) = some grown := by decide +kernel
  have exchanged : tree.replace? ⟨3⟩ new = some replaced := by decide +kernel
  have cleared : tree.clear? (some ⟨2⟩) = some (removed, emptied) := by decide +kernel
  obtain ⟨takesOut, putsBack, fills⟩ := edits_undone tree
  exact ⟨⟨unused, inserted, takesOut _ _ _ unused inserted⟩,
    ⟨exchanged, putsBack _ _ _ exchanged⟩, ⟨cleared, fills _ _ _ cleared⟩⟩

end StepTree

end DesktopAutomation
