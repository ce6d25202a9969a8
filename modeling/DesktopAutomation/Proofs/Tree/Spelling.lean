import DesktopAutomation.Proofs.Step.Spelling

/-! Edits of trees do not look at names: what they make of keyed steps is the keyed form of what
they make of the steps.
-/

namespace DesktopAutomation

-----------------------------------------------------------------------------------------
-- Nested lists of steps
-----------------------------------------------------------------------------------------

/-- A step that was taken out, and the steps that are left, with every name replaced by its key. -/
def keyedParts (parts : Step × List Step) : Step × List Step := (parts.1.keyed, keyedAll parts.2)

/-- Keyed siblings are found by the same ids. -/
theorem find?_keyedAll (id : StepId) (steps : List Step)
    : (keyedAll steps).find? (·.id == id) = (steps.find? (·.id == id)).map Step.keyed := by
  rw [keyedAll_eq_map, List.find?_map]
  simp only [Function.comp_def, Step.keyed_id]

theorem map_id_keyedAll (steps : List Step) : (keyedAll steps).map Step.id = steps.map Step.id := by
  rw [keyedAll_eq_map, List.map_map]
  exact List.map_congr_left fun step _ => step.keyed_id

/-- Edits in place that agree on keyed steps, by induction over the nested lists. -/
theorem editFirst?_keyedAll (edit editKeyed : Step → Step)
    (same : ∀ step : Step, editKeyed step.keyed = (edit step).keyed) (id : StepId)
    (steps : List Step)
    : editFirst? id editKeyed (keyedAll steps) = (editFirst? id edit steps).map keyedAll := by
  induction steps using steps_induction with
  | nil => rfl
  | action own act rest ih =>
      have edited := same (.action own act)
      rw [Step.keyed_action] at edited
      rw [keyedAll, Step.keyed_action, editFirst?_action, editFirst?_action, ih, edited]
      split
      · simp [keyedAll]
      · cases editFirst? id edit rest <;> simp [keyedAll, Step.keyed_action]
  | statement own stmt body rest bodyIH restIH =>
      have edited := same (.statement own stmt body)
      rw [Step.keyed_statement] at edited
      rw [keyedAll, Step.keyed_statement, editFirst?_statement, editFirst?_statement, bodyIH,
        restIH, edited]
      split
      · simp [keyedAll]
      · cases editFirst? id edit body with
        | some inner => simp [keyedAll, Step.keyed_statement]
        | none => cases editFirst? id edit rest <;> simp [keyedAll, Step.keyed_statement]

/-- A keyed step is taken from among keyed siblings where the step is taken. -/
theorem takeSibling?_keyedAll (id : StepId) (steps : List Step)
    : takeSibling? id (keyedAll steps) = (takeSibling? id steps).map keyedParts := by
  induction steps with
  | nil => rfl
  | cons step rest ih =>
      rw [keyedAll, takeSibling?, takeSibling?, Step.keyed_id, ih]
      split
      · rfl
      · cases takeSibling? id rest <;> simp [keyedParts, keyedAll]

/-- A body is searched before the rest, so the induction runs over both at once. -/
theorem takeBelow?_keyedAll (id : StepId) (steps : List Step)
    : takeBelow? id (keyedAll steps) = (takeBelow? id steps).map keyedParts := by
  induction steps using steps_induction with
  | nil => rfl
  | action own act rest ih =>
      rw [keyedAll, Step.keyed_action, takeBelow?_action, takeBelow?_action, ih]
      cases takeBelow? id rest <;> simp [keyedParts, keyedAll, Step.keyed_action]
  | statement own stmt body rest bodyIH restIH =>
      have inner : takeStep? id (keyedAll body) = (takeStep? id body).map keyedParts := by
        rw [takeStep?, takeSibling?_keyedAll, bodyIH, takeStep?, Option.map_or]
      rw [keyedAll, Step.keyed_statement, takeBelow?_statement, takeBelow?_statement, inner, restIH]
      cases takeStep? id body with
      | some parts => simp [keyedParts, keyedAll, Step.keyed_statement]
      | none =>
          cases takeBelow? id rest <;> simp [keyedParts, keyedAll, Step.keyed_statement]

/-- A keyed step is taken from any depth where the step is taken: from its siblings, or below them.
-/
theorem takeStep?_keyedAll (id : StepId) (steps : List Step)
    : takeStep? id (keyedAll steps) = (takeStep? id steps).map keyedParts := by
  rw [takeStep?, takeSibling?_keyedAll, takeBelow?_keyedAll, takeStep?, Option.map_or]

/-- Keyed siblings are moved by the same positions. -/
theorem moveItem_keyedAll (source destination : Nat) (steps : List Step)
    : moveItem source destination (keyedAll steps)
      = keyedAll (moveItem source destination steps) := by
  simp only [keyedAll_eq_map, moveItem, List.getElem?_map]
  cases steps[source]? with
  | none => rfl
  | some step => simp [List.map_insertIdx, List.eraseIdx_map]

-----------------------------------------------------------------------------------------
-- Trees
-----------------------------------------------------------------------------------------

namespace StepTree

/-- The tree with every name in it replaced by its key. -/
def keyed (tree : StepTree) : StepTree := ⟨keyedAll tree.steps⟩

theorem keyed_toList (tree : StepTree) : tree.keyed.toList = keyedAll tree.toList :=
  walk_keyedAll tree.steps

/-- A keyed tree finds the keyed form of what the tree finds. -/
@[simp] theorem keyed_find? (tree : StepTree) (id : StepId)
    : tree.keyed.find? id = (tree.find? id).map Step.keyed := by
  rw [find?, keyed_toList, find?_keyedAll, find?]

/-- A keyed tree has the same ids. -/
@[simp] theorem keyed_contains (tree : StepTree) (id : StepId)
    : tree.keyed.contains id = tree.contains id := by
  rw [contains, keyed_find?, Option.isSome_map, contains]

/-- The next id does not depend on names. -/
@[simp] theorem keyed_nextId (tree : StepTree) : tree.keyed.nextId = tree.nextId := by
  rw [nextId, keyed_toList, map_id_keyedAll, nextId]

/-- A keyed tree lists the siblings in a container keyed. -/
theorem keyed_siblings? (tree : StepTree) (container : Option StepId)
    : tree.keyed.siblings? container = (tree.siblings? container).map keyedAll := by
  cases container with
  | none => rfl
  | some id =>
      rw [siblings?, keyed_find?, siblings?]
      cases tree.find? id <;> simp

/-- If an edit of siblings commutes with keying, so does the edit of the tree. -/
theorem keyed_editSiblings? (edit editKeyed : List Step → List Step)
    (same : ∀ steps, editKeyed (keyedAll steps) = keyedAll (edit steps)) (tree : StepTree)
    (container : Option StepId)
    : tree.keyed.editSiblings? container editKeyed
      = (tree.editSiblings? container edit).map keyed := by
  cases container with
  | none => simp only [editSiblings?, keyed, same, Option.map_some]
  | some id =>
      have bodies (step : Step)
          : step.keyed.withBody (editKeyed (step.keyed.body?.getD []))
            = (step.withBody (edit (step.body?.getD []))).keyed := by
        rw [Step.keyed_withBody, Step.keyed_body?, ← same]
        cases step.body? <;> rfl
      have edited := editFirst?_keyedAll (fun step => step.withBody (edit (step.body?.getD [])))
        (fun step => step.withBody (editKeyed (step.body?.getD []))) bodies id tree.steps
      simp only [editSiblings?, keyed_find?, Option.any_map,
        Step.keyed_isContainer]
      split
      · simp only [keyed, edited, Option.map_map]
        rfl
      · rfl

/-- A keyed step is inserted into a keyed tree where the step is inserted into the tree. -/
theorem keyed_insert? (tree : StepTree) (step : Step) (parent : Option StepId)
    : tree.keyed.insert? step.keyed parent = (tree.insert? step parent).map keyed :=
  keyed_editSiblings? _ _ (fun steps => (keyedAll_append steps [step]).symm) tree parent

/-- A keyed step is removed from a keyed tree where the step is removed from the tree. -/
theorem keyed_remove? (tree : StepTree) (id : StepId)
    : tree.keyed.remove? id
      = (tree.remove? id).map fun (taken, left) => (taken.keyed, left.keyed) := by
  rw [remove?, keyed, takeStep?_keyedAll, remove?, Option.map_map, Option.map_map]
  rfl

/-- A keyed step is replaced in a keyed tree where the step is replaced in the tree. -/
theorem keyed_replace? (tree : StepTree) (id : StepId) (step : Step)
    : tree.keyed.replace? id step.keyed = (tree.replace? id step).map keyed := by
  have edited := editFirst?_keyedAll (fun _ => step) (fun _ => step.keyed) (fun _ => rfl) id
    tree.steps
  rw [replace?, Step.keyed_id, replace?]
  split
  · rw [keyed, edited, Option.map_map, Option.map_map]
    rfl
  · rfl

/-- A keyed tree is reordered by the same positions. -/
theorem keyed_reorder? (tree : StepTree) (source destination : Nat)
    (container : Option StepId)
    : tree.keyed.reorder? source destination container
      = (tree.reorder? source destination container).map keyed := by
  have moved := keyed_editSiblings? _ _ (moveItem_keyedAll source destination) tree container
  rw [reorder?, keyed_siblings?, reorder?]
  cases tree.siblings? container with
  | none => rfl
  | some siblings =>
      simp only [Option.map_some, Option.bind_eq_bind, Option.bind_some, keyedAll_eq_map,
        List.length_map, moved]
      split <;> rfl

/-- A keyed tree loses the keyed steps when a place is cleared. -/
theorem keyed_clear? (tree : StepTree) (container : Option StepId)
    : tree.keyed.clear? container
      = (tree.clear? container).map fun (taken, left) => (keyedAll taken, left.keyed) := by
  have emptied := keyed_editSiblings? (fun _ => []) (fun _ => []) (fun _ => rfl) tree container
  rw [clear?, keyed_siblings?, clear?]
  cases tree.siblings? container with
  | none => rfl
  | some siblings =>
      simp only [Option.map_some, Option.bind_eq_bind, Option.bind_some, emptied]
      cases tree.editSiblings? container fun _ => [] <;> rfl

end StepTree

end DesktopAutomation
