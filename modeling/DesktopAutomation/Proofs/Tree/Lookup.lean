import DesktopAutomation.Proofs.Tree.Accounting
import Mathlib.Data.List.Nodup

/-! What a search by id decides about an edit of a tree: a step is taken out exactly if the search
finds one, and where ids are unique a new step comes to stand behind the body of the step with the
id of its parent, wherever that is, and nowhere else.
-/

namespace DesktopAutomation

-----------------------------------------------------------------------------------------
-- Taking out
-----------------------------------------------------------------------------------------

theorem takeStep?_action (id own : StepId) (act : Action) (rest : List Step)
    : (takeStep? id (.action own act :: rest)).isSome
      = (own = id ∨ (takeStep? id rest).isSome) := by
  rw [takeStep?, takeStep?, takeSibling?, takeBelow?_action, Step.action_id]
  by_cases same : own = id <;> simp [same]

theorem takeStep?_statement (id own : StepId) (stmt : Statement) (body rest : List Step)
    : (takeStep? id (.statement own stmt body :: rest)).isSome
      = (own = id ∨ (takeStep? id body).isSome ∨ (takeStep? id rest).isSome) := by
  rw [takeStep?, takeSibling?, takeBelow?_statement, Step.statement_id]
  by_cases same : own = id
  · simp [same]
  · cases takeStep? id body with
    | some parts => simp [same]
    | none => simp [same, takeStep?]

/-- A step can be taken out exactly if one has the id, by induction over the nested lists. -/
theorem takeStep?_isSome (id : StepId) (steps : List Step)
    : (takeStep? id steps).isSome = ((listingOf steps).find? (·.id == id)).isSome := by
  rw [Bool.eq_iff_iff]
  induction steps using steps_induction with
  | nil => rfl
  | action own act rest ih =>
      rw [takeStep?_action, ih, find?_listingOf_action]
      by_cases same : own = id <;> simp [same]
  | statement own stmt body rest bodyIH restIH =>
      rw [takeStep?_statement, bodyIH, restIH, find?_listingOf_statement]
      by_cases same : own = id <;> simp [same, Option.isSome_or]

-----------------------------------------------------------------------------------------
-- Growing
-----------------------------------------------------------------------------------------

mutual

/-- The step with a new one behind the body of every statement with an id, here or within. -/
def Step.grown (parent : StepId) (new : Step) : Step → Step
  | .action id act => .action id act
  | .statement id stmt body =>
    .statement id stmt (grownWithin parent new body ++ if id = parent then [new] else [])

/-- The steps, each with a new one behind the body of every statement with an id in it. -/
def grownWithin (parent : StepId) (new : Step) : List Step → List Step
  | [] => []
  | step :: rest => Step.grown parent new step :: grownWithin parent new rest

end

/-- The steps of a tree with a new one behind them, or behind the body of a container. -/
def grownAt (parent : Option StepId) (new : Step) (steps : List Step) : List Step :=
  match parent with
  | none => steps ++ [new]
  | some id => grownWithin id new steps

theorem grownWithin_action (parent : StepId) (new : Step) (id : StepId) (act : Action)
    (rest : List Step)
    : grownWithin parent new (.action id act :: rest)
      = .action id act :: grownWithin parent new rest := by
  rw [grownWithin, Step.grown]

theorem grownWithin_statement (parent : StepId) (new : Step) (id : StepId) (stmt : Statement)
    (body rest : List Step)
    : grownWithin parent new (.statement id stmt body :: rest)
      = .statement id stmt (grownWithin parent new body ++ if id = parent then [new] else [])
        :: grownWithin parent new rest := by
  rw [grownWithin, Step.grown]

/-- Steps without the id of the parent stay as they are. -/
theorem grownWithin_of_not_mem {parent : StepId} (new : Step) {steps : List Step}
    (absent : parent ∉ (listingOf steps).map Step.id)
    : grownWithin parent new steps = steps := by
  induction steps using steps_induction with
  | nil => rfl
  | action id act rest ih =>
      rw [listingOf_action, List.map_cons, List.mem_cons, not_or] at absent
      rw [grownWithin_action, ih absent.2]
  | statement id stmt body rest bodyIH restIH =>
      rw [listingOf_statement, List.map_cons, List.map_append, List.mem_cons, List.mem_append,
        not_or, not_or, Step.statement_id] at absent
      obtain ⟨differs, notInBody, notInRest⟩ := absent
      rw [grownWithin_statement, bodyIH notInBody, restIH notInRest, if_neg (Ne.symm differs),
        List.append_nil]

/-- An edit in place applies exactly if the id is among those of the steps. -/
theorem editFirst?_isSome_iff_mem (id : StepId) (edit : Step → Step) (steps : List Step)
    : (editFirst? id edit steps).isSome ↔ id ∈ (listingOf steps).map Step.id := by
  simp only [editFirst?_isSome, List.find?_isSome, beq_iff_eq, List.mem_map]

/-- Where ids are unique, an edit that puts a step behind a body reaches all steps with the id:
there is none beside or below the first.
-/
theorem editFirst?_eq_grownWithin {parent : StepId} {new : Step} {steps edited : List Step}
    (distinct : ((listingOf steps).map Step.id).Nodup)
    (found
      : editFirst? parent (fun step => step.withBody (step.body?.getD [] ++ [new])) steps
        = some edited)
    : edited = grownWithin parent new steps := by
  induction steps using steps_induction generalizing edited with
  | nil => simp [editFirst?] at found
  | action id act rest ih =>
      rw [listingOf_action, List.map_cons, List.nodup_cons, Step.action_id] at distinct
      rw [editFirst?_action] at found
      rw [grownWithin_action]
      split at found
      · next same =>
          obtain rfl := Option.some.inj found
          rw [grownWithin_of_not_mem new (same ▸ distinct.1)]
          rfl
      · obtain ⟨tail, inRest, rfl⟩ := Option.map_eq_some_iff.mp found
        rw [ih distinct.2 inRest]
  | statement id stmt body rest bodyIH restIH =>
      rw [listingOf_statement, List.map_cons, List.map_append, List.nodup_cons, List.mem_append,
        not_or, Step.statement_id, List.nodup_append] at distinct
      obtain ⟨⟨notInBody, notInRest⟩, bodyDistinct, restDistinct, apart⟩ := distinct
      rw [editFirst?_statement] at found
      rw [grownWithin_statement]
      split at found
      · next same =>
          obtain rfl := Option.some.inj found
          rw [grownWithin_of_not_mem new (same ▸ notInBody),
            grownWithin_of_not_mem new (same ▸ notInRest), if_pos same]
          rfl
      · next differs =>
          rw [if_neg differs, List.append_nil]
          cases within : editFirst? parent _ body with
          | some inner =>
              rw [within] at found
              obtain rfl := Option.some.inj found
              have present := (editFirst?_isSome_iff_mem parent _ body).mp (by rw [within]; rfl)
              have notInRest : parent ∉ (listingOf rest).map Step.id :=
                fun inRest => apart _ present _ inRest rfl
              rw [grownWithin_of_not_mem new notInRest, ← bodyIH bodyDistinct within]
          | none =>
              rw [within] at found
              obtain ⟨tail, inRest, rfl⟩ := Option.map_eq_some_iff.mp found
              have notInBody : parent ∉ (listingOf body).map Step.id := by
                rw [← editFirst?_isSome_iff_mem parent _ body, within]
                exact Bool.false_ne_true
              rw [grownWithin_of_not_mem new notInBody, restIH restDistinct inRest]

namespace StepTree

/-- Where ids are unique, a search by its id finds every step. -/
theorem find?_of_mem {tree : StepTree} (distinct : (tree.toList.map Step.id).Nodup) {step : Step}
    (member : step ∈ tree.toList)
    : tree.find? step.id = some step := by
  rw [find?]
  cases isFirst : tree.toList.find? (·.id == step.id) with
  | none => exact absurd (List.find?_eq_none.mp isFirst step member) (by simp)
  | some first =>
      have same : first.id = step.id := by simpa using List.find?_some isFirst
      rw [List.inj_on_of_nodup_map distinct (List.mem_of_find?_eq_some isFirst) member same]

theorem remove?_isSome (tree : StepTree) (id : StepId)
    : (tree.remove? id).isSome = tree.contains id := by
  rw [remove?, Option.isSome_map, takeStep?_isSome, contains, find?, toList_eq]

theorem contains_iff {tree : StepTree} {id : StepId}
    : tree.contains id = true ↔ id ∈ tree.toList.map Step.id := by
  simp only [contains, find?, List.find?_isSome, beq_iff_eq, List.mem_map]

theorem insert?_eq_grownAt {tree after : StepTree} {step : Step} {parent : Option StepId}
    (distinct : (tree.toList.map Step.id).Nodup) (inserted : tree.insert? step parent = some after)
    : after.steps = grownAt parent step tree.steps := by
  cases parent with
  | none =>
      obtain rfl := Option.some.inj inserted
      rfl
  | some id =>
      rw [insert?, editSiblings?] at inserted
      split at inserted
      · obtain ⟨edited, changed, rfl⟩ := Option.map_eq_some_iff.mp inserted
        rw [toList_eq] at distinct
        exact editFirst?_eq_grownWithin distinct changed
      · simp at inserted

end StepTree

end DesktopAutomation
