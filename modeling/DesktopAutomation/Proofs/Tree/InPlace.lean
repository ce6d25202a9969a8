import DesktopAutomation.Proofs.Tree.Lookup
import Mathlib.Data.List.InsertIdx

/-! Edits of a tree that are carried out in place: a place is looked up first, and then searched for
once more, by a search that may write to it. The two searches agree on every tree, also where steps
share ids; so an edit is carried out as a whole or leaves the tree as it is.
-/

namespace DesktopAutomation

-----------------------------------------------------------------------------------------
-- Slots
-----------------------------------------------------------------------------------------

/-- A step that can be written to: the step that is there, and all around it with another one put in
its place.
-/
structure Slot (α : Type) where
  step : Step
  put : Step → α

/-- The slot with more around it. -/
def Slot.within {α β : Type} (around : α → β) (slot : Slot α) : Slot β :=
  ⟨slot.step, fun step => around (slot.put step)⟩

mutual

/-- Searches a step, then its body, for a step to write to. -/
def Step.slot? (id : StepId) : Step → Option (Slot Step)
  | .action own act => if own = id then some ⟨.action own act, fun step => step⟩ else none
  | .statement own stmt body =>
    if own = id then some ⟨.statement own stmt body, fun step => step⟩
    else (slot? id body).map (.within (.statement own stmt))

/-- Searches each step of a list with its body, in order, for a step to write to. -/
def slot? (id : StepId) : List Step → Option (Slot (List Step))
  | [] => none
  | step :: rest =>
    match step.slot? id with
    | some slot => some (slot.within (· :: rest))
    | none => (slot? id rest).map (.within (step :: ·))

end

theorem slot?_action (id own : StepId) (act : Action) (rest : List Step)
    : slot? id (.action own act :: rest)
      = if own = id then some ⟨.action own act, (· :: rest)⟩
        else (slot? id rest).map (.within (.action own act :: ·)) := by
  rw [slot?, Step.slot?]
  by_cases same : own = id <;> simp [same, Slot.within]

theorem slot?_statement (id own : StepId) (stmt : Statement) (body rest : List Step)
    : slot? id (.statement own stmt body :: rest)
      = if own = id then some ⟨.statement own stmt body, (· :: rest)⟩
        else
          match slot? id body with
          | some slot => some (slot.within (.statement own stmt · :: rest))
          | none => (slot? id rest).map (.within (.statement own stmt body :: ·)) := by
  rw [slot?, Step.slot?]
  by_cases same : own = id
  · simp [same, Slot.within]
  · cases slot? id body <;> simp [same, Slot.within]

/-- The search that may write finds the step that a look-up finds, by induction over the nested
lists.
-/
theorem slot?_step (id : StepId) (steps : List Step)
    : (slot? id steps).map Slot.step = (listingOf steps).find? (·.id == id) := by
  have within {α β : Type} (around : α → β) : Slot.step ∘ Slot.within around = Slot.step := rfl
  induction steps using steps_induction with
  | nil => rfl
  | action own act rest ih =>
      rw [slot?_action, find?_listingOf_action, ← ih]
      by_cases same : own = id
      · simp [same]
      · simp [same, within]
  | statement own stmt body rest bodyIH restIH =>
      rw [slot?_statement, find?_listingOf_statement, ← bodyIH, ← restIH]
      by_cases same : own = id
      · simp [same]
      · cases slot? id body <;> simp [same, within, Slot.within]

/-- To change the step in the slot is to edit the first step with the id. -/
theorem slot?_put (id : StepId) (edit : Step → Step) (steps : List Step)
    : (slot? id steps).map (fun slot => slot.put (edit slot.step)) = editFirst? id edit steps := by
  induction steps using steps_induction with
  | nil => rfl
  | action own act rest ih =>
      rw [slot?_action, editFirst?_action, ← ih]
      by_cases same : own = id
      · simp [same]
      · simp [same, Function.comp_def, Slot.within]
  | statement own stmt body rest bodyIH restIH =>
      rw [slot?_statement, editFirst?_statement, ← bodyIH, ← restIH]
      by_cases same : own = id
      · simp [same]
      · cases slot? id body <;> simp [same, Function.comp_def, Slot.within]

/-- Putting back what is there changes nothing. -/
theorem put_step_of_slot? {id : StepId} {steps : List Step} {slot : Slot (List Step)}
    (found : slot? id steps = some slot)
    : slot.put slot.step = steps := by
  induction steps using steps_induction generalizing slot with
  | nil => simp [slot?] at found
  | action own act rest ih =>
      rw [slot?_action] at found
      split at found
      · obtain rfl := Option.some.inj found
        rfl
      · obtain ⟨inner, inRest, rfl⟩ := Option.map_eq_some_iff.mp found
        exact congrArg (_ :: ·) (ih inRest)
  | statement own stmt body rest bodyIH restIH =>
      rw [slot?_statement] at found
      split at found
      · obtain rfl := Option.some.inj found
        rfl
      · split at found
        · next inner inBody =>
            obtain rfl := Option.some.inj found
            exact congrArg (Step.statement own stmt · :: rest) (bodyIH inBody)
        · obtain ⟨inner, inRest, rfl⟩ := Option.map_eq_some_iff.mp found
          exact congrArg (_ :: ·) (restIH inRest)

-----------------------------------------------------------------------------------------
-- Taking out in place
-----------------------------------------------------------------------------------------

mutual

/-- Takes a step out of the body of a step, by its place in it, or out of the bodies below. The step
is left in any case.
-/
def Step.takeFromBody (id : StepId) : Step → Option Step × Step
  | .action own act => (none, .action own act)
  | .statement own stmt body =>
    match body.findIdx? (·.id == id) with
    | some place => (body[place]?, .statement own stmt (body.eraseIdx place))
    | none =>
      let (taken?, left) := takeFromBodies id body
      (taken?, .statement own stmt left)

/-- Takes a step out of the first body that has it. The list is left in any case. -/
def takeFromBodies (id : StepId) : List Step → Option Step × List Step
  | [] => (none, [])
  | step :: rest =>
    match step.takeFromBody id with
    | (some taken, left) => (some taken, left :: rest)
    | (none, left) =>
      let (taken?, others) := takeFromBodies id rest
      (taken?, left :: others)

end

/-- Takes a step out of a list, by its place in it, or out of the bodies of its steps. -/
def takeFrom (id : StepId) (steps : List Step) : Option Step × List Step :=
  match steps.findIdx? (·.id == id) with
  | some place => (steps[place]?, steps.eraseIdx place)
  | none => takeFromBodies id steps

/-- What an attempt hands back, and what is there behind it: it changes something only if it
succeeds.
-/
def settle {α β : Type} (before : β) : Option (α × β) → Option α × β
  | some (result, after) => (some result, after)
  | none => (none, before)

theorem settle_map {α β γ : Type} (before : β) (around : β → γ) (attempt : Option (α × β))
    : settle (around before) (attempt.map fun (result, after) => (result, around after))
      = ((settle before attempt).1, around (settle before attempt).2) := by
  cases attempt <;> rfl

/-- A sibling is taken by its place. -/
theorem takeFrom_eq_takeSibling? (id : StepId) (steps : List Step)
    : takeFrom id steps
      = match takeSibling? id steps with
        | some (taken, left) => (some taken, left)
        | none => takeFromBodies id steps := by
  have place
      : (steps.findIdx? (·.id == id)).map (fun place => (steps[place]?, steps.eraseIdx place))
        = (takeSibling? id steps).map fun parts => (some parts.1, parts.2) := by
    induction steps with
    | nil => rfl
    | cons step rest ih =>
        rw [takeSibling?, List.findIdx?_cons]
        by_cases same : step.id = id
        · simp [same]
        · have further := congrArg (Option.map (Prod.map (fun taken? => taken?) (step :: ·))) ih
          simp only [Option.map_map, Function.comp_def, Prod.map] at further
          simpa [same, Function.comp_def] using further
  rw [takeFrom]
  cases index : steps.findIdx? (·.id == id) <;> cases sibling : takeSibling? id steps <;>
    simp [index, sibling] at place ⊢
  exact place

theorem takeFromBodies_action (id own : StepId) (act : Action) (rest : List Step)
    : takeFromBodies id (.action own act :: rest)
      = ((takeFromBodies id rest).1, .action own act :: (takeFromBodies id rest).2) := by
  rw [takeFromBodies, Step.takeFromBody]

theorem takeFromBodies_statement (id own : StepId) (stmt : Statement) (body rest : List Step)
    : takeFromBodies id (.statement own stmt body :: rest)
      = match takeFrom id body with
        | (some taken, left) => (some taken, .statement own stmt left :: rest)
        | (none, left) =>
            let (taken?, others) := takeFromBodies id rest
            (taken?, .statement own stmt left :: others) := by
  have within
      : Step.takeFromBody id (.statement own stmt body)
        = ((takeFrom id body).1, .statement own stmt (takeFrom id body).2) := by
    rw [Step.takeFromBody, takeFrom]
    cases body.findIdx? (·.id == id) <;> rfl
  rw [takeFromBodies, within]
  rcases takeFrom id body with ⟨_ | taken, left⟩ <;> rfl

/-- A step that is taken out in place leaves what it leaves when it is taken out at once; where
there is none, every body on the way is left as it is.
-/
theorem takeFromBodies_eq (id : StepId) (steps : List Step)
    : takeFromBodies id steps = settle steps (takeBelow? id steps) := by
  induction steps using steps_induction with
  | nil => rfl
  | action own act rest ih =>
      rw [takeFromBodies_action, takeBelow?_action, ih]
      exact (settle_map rest (.action own act :: ·) _).symm
  | statement own stmt body rest bodyIH restIH =>
      have taking : takeFrom id body = settle body (takeStep? id body) := by
        rw [takeFrom_eq_takeSibling?, takeStep?, bodyIH]
        cases takeSibling? id body <;> rfl
      rw [takeFromBodies_statement, takeBelow?_statement, taking]
      cases takeStep? id body with
      | some parts => rfl
      | none =>
          rw [restIH]
          exact (settle_map rest (.statement own stmt body :: ·) _).symm

theorem takeFrom_eq (id : StepId) (steps : List Step)
    : takeFrom id steps = settle steps (takeStep? id steps) := by
  rw [takeFrom_eq_takeSibling?, takeStep?, takeFromBodies_eq]
  cases takeSibling? id steps <;> rfl

-----------------------------------------------------------------------------------------
-- Edits
-----------------------------------------------------------------------------------------

namespace StepTree

/-- The edits of a tree. -/
inductive Edit
  | insert (step : Step) (parent : Option StepId)
  | remove (id : StepId)
  | replace (id : StepId) (step : Step)
  | reorder (source destination : Nat) (container : Option StepId)
  | clear (container : Option StepId)

/-- What an edit that applies hands back, and the tree behind it. -/
def edited? (tree : StepTree) : Edit → Option (List Step × StepTree)
  | .insert step parent => (tree.insert? step parent).map ([], ·)
  | .remove id => (tree.remove? id).map fun (taken, left) => ([taken], left)
  | .replace id step => (tree.replace? id step).map ([], ·)
  | .reorder source destination container =>
    (tree.reorder? source destination container).map ([], ·)
  | .clear container => tree.clear? container

/-- The siblings in a container, to be written to. -/
def siblingsSlot? (tree : StepTree) : Option StepId → Option (List Step × (List Step → StepTree))
  | none => some (tree.steps, mk)
  | some id => do
    let slot ← slot? id tree.steps
    let body ← slot.step.body?
    return (body, fun siblings => ⟨slot.put (slot.step.withBody siblings)⟩)

/-- Carries out an edit in place. What is handed back tells whether it applied; the tree behind it
is there in any case.
-/
def editInPlace (tree : StepTree) : Edit → Option (List Step) × StepTree
  | .insert step none => (some [], ⟨tree.steps ++ [step]⟩)
  | .insert step (some parent) =>
    if (tree.find? parent).any Step.isContainer then
      match tree.siblingsSlot? (some parent) with
      | some (siblings, put) => (some [], put (siblings ++ [step]))
      | none => (none, tree)
    else
      (none, tree)
  | .remove id =>
    if tree.contains id then
      let (taken?, left) := takeFrom id tree.steps
      (taken?.map ([·]), ⟨left⟩)
    else
      (none, tree)
  | .replace id step =>
    if step.id ≠ id ∨ tree.contains id = false then (none, tree)
    else
      match slot? id tree.steps with
      | some slot => (some [], ⟨slot.put step⟩)
      | none => (none, tree)
  | .reorder source destination container =>
    match tree.siblings? container with
    | none => (none, tree)
    | some listed =>
      if listed.length ≤ source ∨ listed.length ≤ destination then (none, tree)
      else if source = destination then (some [], tree)
      else
        match tree.siblingsSlot? container with
        | some (siblings, put) => (some [], put (moveItem source destination siblings))
        | none => (none, tree)
  | .clear container =>
    match tree.siblings? container with
    | none => (none, tree)
    | some _ =>
      match tree.siblingsSlot? container with
      | some (siblings, put) => (some siblings, put [])
      | none => (none, tree)

/-- Siblings in a step are written to as the body of the statement that is found. -/
theorem siblingsSlot?_of_some {tree : StepTree} {id : StepId} {siblings : List Step}
    {put : List Step → StepTree} (writable : tree.siblingsSlot? (some id) = some (siblings, put))
    : ∃ own stmt write,
        slot? id tree.steps = some ⟨.statement own stmt siblings, write⟩
        ∧ put = fun others => ⟨write (.statement own stmt others)⟩ := by
  obtain ⟨⟨step, write⟩, found, parts⟩ := Option.bind_eq_some_iff.mp writable
  obtain ⟨body, isBody, parts⟩ := Option.bind_eq_some_iff.mp parts
  obtain ⟨rfl, rfl⟩ := Prod.mk.inj (Option.some.inj parts)
  cases step with
  | action own act => simp [Step.body?] at isBody
  | statement own stmt inner =>
      obtain rfl := Option.some.inj isBody
      exact ⟨own, stmt, write, found, rfl⟩

/-- The siblings that are written to are those that are listed. -/
theorem siblingsSlot?_listed (tree : StepTree) (container : Option StepId)
    : (tree.siblingsSlot? container).map (·.1) = tree.siblings? container := by
  cases container with
  | none => rfl
  | some id =>
      rw [siblingsSlot?, siblings?, find?, toList_eq, ← slot?_step]
      cases slot? id tree.steps with
      | none => rfl
      | some slot => cases body : slot.step.body? <;> simp [body]

theorem siblingsSlot?_put (tree : StepTree) (container : Option StepId)
    (edit : List Step → List Step)
    : (tree.siblingsSlot? container).map (fun (siblings, put) => put (edit siblings))
      = tree.editSiblings? container edit := by
  cases container with
  | none => rfl
  | some id =>
      rw [siblingsSlot?, editSiblings?, find?, toList_eq, ← slot?_step, ← slot?_put]
      cases slot? id tree.steps with
      | none => rfl
      | some slot => cases body : slot.step.body? <;> simp [body, Step.isContainer]

/-- Where siblings are listed they can be written to, and writing them back changes nothing. -/
theorem siblingsSlot?_of_listed {tree : StepTree} {container : Option StepId}
    {siblings : List Step} (listed : tree.siblings? container = some siblings)
    : ∃ put,
        tree.siblingsSlot? container = some (siblings, put)
        ∧ put siblings = tree
        ∧ ∀ edit, tree.editSiblings? container edit = some (put (edit siblings)) := by
  rw [← siblingsSlot?_listed] at listed
  obtain ⟨⟨others, put⟩, writable, rfl⟩ := Option.map_eq_some_iff.mp listed
  refine ⟨put, writable, ?_, ?_⟩
  · cases container with
    | none =>
        obtain ⟨rfl, rfl⟩ := Prod.mk.inj (Option.some.inj writable)
        rfl
    | some id =>
        obtain ⟨own, stmt, write, found, rfl⟩ := siblingsSlot?_of_some writable
        exact congrArg mk (put_step_of_slot? found)
  · intro edit
    rw [← siblingsSlot?_put, writable, Option.map_some]

theorem editInPlace_insert (tree : StepTree) (step : Step) (parent : Option StepId)
    : tree.editInPlace (.insert step parent)
      = settle tree (tree.edited? (.insert step parent)) := by
  cases parent with
  | none => rfl
  | some id =>
      have container
          : (tree.find? id).any Step.isContainer = (tree.siblings? (some id)).isSome := by
        rw [siblings?]
        cases tree.find? id <;> rfl
      rw [editInPlace, edited?, insert?, container]
      cases listed : tree.siblings? (some id) with
      | none =>
          have unwritable := tree.editSiblings?_isSome (some id) (· ++ [step])
          rw [listed, Option.isSome_none, Option.isSome_eq_false_iff,
            Option.isNone_iff_eq_none] at unwritable
          simp [unwritable, settle]
      | some siblings =>
          obtain ⟨put, writable, _, edits⟩ := siblingsSlot?_of_listed listed
          simp [writable, edits, settle]

theorem editInPlace_remove (tree : StepTree) (id : StepId)
    : tree.editInPlace (.remove id) = settle tree (tree.edited? (.remove id)) := by
  rw [editInPlace, edited?, takeFrom_eq, ← remove?_isSome, remove?]
  cases takeStep? id tree.steps <;> rfl

theorem editInPlace_replace (tree : StepTree) (id : StepId) (step : Step)
    : tree.editInPlace (.replace id step) = settle tree (tree.edited? (.replace id step)) := by
  have listed := slot?_step id tree.steps
  rw [editInPlace, edited?, replace?, ← slot?_put, contains, find?, toList_eq, ← listed]
  by_cases own : step.id = id
  · cases slot? id tree.steps <;> simp [own, settle]
  · simp [own, settle]

theorem editInPlace_reorder (tree : StepTree) (source destination : Nat)
    (container : Option StepId)
    : tree.editInPlace (.reorder source destination container)
      = settle tree (tree.edited? (.reorder source destination container)) := by
  rw [editInPlace, edited?, reorder?]
  cases listed : tree.siblings? container with
  | none => rfl
  | some siblings =>
      obtain ⟨put, writable, same, edits⟩ := siblingsSlot?_of_listed listed
      by_cases inside : source < siblings.length ∧ destination < siblings.length
      · have notOutside : ¬(siblings.length ≤ source ∨ siblings.length ≤ destination) := by omega
        by_cases stays : source = destination
        · subst stays
          have unmoved : moveItem source source siblings = siblings := by
            rw [moveItem, List.getElem?_eq_getElem inside.1]
            exact List.insertIdx_eraseIdx_getElem inside.1
          simp [inside, edits, unmoved, same, settle]
        · simp [inside, notOutside, stays, writable, edits, settle]
      · have outside : siblings.length ≤ source ∨ siblings.length ≤ destination := by omega
        simp [inside, outside, settle]

theorem editInPlace_clear (tree : StepTree) (container : Option StepId)
    : tree.editInPlace (.clear container) = settle tree (tree.edited? (.clear container)) := by
  rw [editInPlace, edited?, clear?]
  cases listed : tree.siblings? container with
  | none => rfl
  | some siblings =>
      obtain ⟨put, writable, _, edits⟩ := siblingsSlot?_of_listed listed
      simp [writable, edits, settle]

/-- An edit in place does what the edit does at once, or nothing. -/
theorem editInPlace_eq (tree : StepTree) (edit : Edit)
    : tree.editInPlace edit = settle tree (tree.edited? edit) := by
  cases edit with
  | insert step parent => exact tree.editInPlace_insert step parent
  | remove id => exact tree.editInPlace_remove id
  | replace id step => exact tree.editInPlace_replace id step
  | reorder source destination container =>
      exact tree.editInPlace_reorder source destination container
  | clear container => exact tree.editInPlace_clear container

end StepTree

end DesktopAutomation
