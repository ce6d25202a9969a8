import DesktopAutomation.Tree.Basic
import Mathlib.Data.List.Perm.Basic

/-! What edits do to the steps of a tree, each counted without the steps within it.
An edit changes every step around its place, but only by what these steps hold; so the listing of
bare steps is cut in one place and pieced together again. No id is assumed to be unique.
-/

namespace DesktopAutomation

-----------------------------------------------------------------------------------------
-- Nested lists of steps
-----------------------------------------------------------------------------------------

/-- Induction over nested lists of steps, with one motive for the body and for the rest. -/
theorem steps_induction {motive : List Step → Prop} (nil : motive [])
    (action : ∀ id act rest, motive rest → motive (.action id act :: rest))
    (statement
      : ∀ id stmt body rest,
          motive body → motive rest → motive (.statement id stmt body :: rest))
    : ∀ steps, motive steps
  | [] => nil
  | .action id act :: rest => action id act rest (steps_induction nil action statement rest)
  | .statement id stmt body :: rest =>
      statement id stmt body rest (steps_induction nil action statement body)
        (steps_induction nil action statement rest)
termination_by steps => sizeOf steps

@[simp] theorem Step.action_id (id : StepId) (act : Action) : (Step.action id act).id = id := rfl

@[simp] theorem Step.statement_id (id : StepId) (stmt : Statement) (body : List Step)
    : (Step.statement id stmt body).id = id :=
  rfl

/-- An action lists itself alone, in front of the rest. -/
theorem listingOf_action (id : StepId) (act : Action) (rest : List Step)
    : listingOf (.action id act :: rest) = .action id act :: listingOf rest :=
  rfl

/-- A statement lists itself, then its body, then the rest. -/
theorem listingOf_statement (id : StepId) (stmt : Statement) (body rest : List Step)
    : listingOf (.statement id stmt body :: rest)
      = .statement id stmt body :: (listingOf body ++ listingOf rest) := by
  rw [listingOf, Step.listing, List.cons_append]

/-- What a step of a list lists is listed by the whole list. -/
theorem mem_listingOf_of_mem {steps : List Step} {holder step : Step} (isHolder : holder ∈ steps)
    (inside : step ∈ holder.listing)
    : step ∈ listingOf steps := by
  obtain ⟨before, after, rfl⟩ := List.append_of_mem isHolder
  rw [listingOf_append, listingOf]
  exact List.mem_append_right _ (List.mem_append_left _ inside)

-----------------------------------------------------------------------------------------
-- Bare steps
-----------------------------------------------------------------------------------------

/-- A step without the steps within it. -/
def Step.bare (step : Step) : Step := step.withBody []

/-- All steps of a list and within it, each without the steps within it. -/
def bareListing (steps : List Step) : List Step := (listingOf steps).map Step.bare

@[simp] theorem Step.bare_id (step : Step) : step.bare.id = step.id := by cases step <;> rfl

/-- A step declares its variable itself, so its bare form declares the same. -/
@[simp] theorem Step.bare_declaration? (step : Step)
    : step.bare.declaration? = step.declaration? := by
  cases step <;> rfl

@[simp] theorem bareListing_nil : bareListing [] = [] := rfl

/-- The bare listings of two lists stand one behind the other. -/
theorem bareListing_append (before after : List Step)
    : bareListing (before ++ after) = bareListing before ++ bareListing after := by
  simp only [bareListing, listingOf_append, List.map_append]

/-- The bare listing of a step, its body and the rest, in this order; an action has no body. -/
theorem bareListing_cons (step : Step) (rest : List Step)
    : bareListing (step :: rest)
      = step.bare :: bareListing (step.body?.getD []) ++ bareListing rest := by
  simp only [bareListing, listingOf, Step.listing_eq, List.map_append, List.map_cons]

/-- Each step of a list accounts for a block of its own in the bare listing. -/
theorem bareListing_eq_flatMap (steps : List Step)
    : bareListing steps = steps.flatMap (fun step => bareListing [step]) := by
  induction steps with
  | nil => rfl
  | cons step rest ih =>
      rw [List.flatMap_cons, ← ih, ← bareListing_append, List.singleton_append]

/-- A block of a list may be moved to its front. -/
theorem block_perm {α : Type} (before block behind : List α)
    : (before ++ block ++ behind).Perm (block ++ (before ++ behind)) := by
  rw [List.append_assoc]
  exact List.perm_append_comm_assoc ..

/-- A change of the order of siblings only moves whole blocks of the listing. -/
theorem bareListing_perm {before after : List Step} (moved : before.Perm after)
    : (bareListing before).Perm (bareListing after) := by
  rw [bareListing_eq_flatMap before, bareListing_eq_flatMap after]
  exact moved.flatMap_right _

/-- What is told by a step alone is told by its bare form. -/
theorem map_bareListing {α : Type} (tell : Step → α) (alone : ∀ step, tell step.bare = tell step)
    (steps : List Step)
    : (bareListing steps).map tell = (listingOf steps).map tell := by
  simp only [bareListing, List.map_map]
  exact List.map_congr_left fun step _ => alone step

/-- Bare steps have the ids of the steps they come from. -/
theorem bareListing_ids (steps : List Step)
    : (bareListing steps).map Step.id = (listingOf steps).map Step.id :=
  map_bareListing Step.id Step.bare_id steps

-----------------------------------------------------------------------------------------
-- Edits in place
-----------------------------------------------------------------------------------------

/-- A search for a place to edit passes an action by unless it has the id. -/
theorem editFirst?_action (id : StepId) (edit : Step → Step) (own : StepId) (act : Action)
    (rest : List Step)
    : editFirst? id edit (.action own act :: rest)
      = if own = id then some (edit (.action own act) :: rest)
        else (editFirst? id edit rest).map (.action own act :: ·) := by
  rw [editFirst?, Step.editFirst?]
  split <;> simp_all

/-- A search for a place to edit tries a statement itself, then its body, then the rest. -/
theorem editFirst?_statement (id : StepId) (edit : Step → Step) (own : StepId)
    (stmt : Statement) (body rest : List Step)
    : editFirst? id edit (.statement own stmt body :: rest)
      = if own = id then some (edit (.statement own stmt body) :: rest)
        else
          match editFirst? id edit body with
          | some edited => some (.statement own stmt edited :: rest)
          | none => (editFirst? id edit rest).map (.statement own stmt body :: ·) := by
  rw [editFirst?, Step.editFirst?]
  by_cases same : own = id
  · simp only [same, if_true]
  · cases inner : editFirst? id edit body <;> simp only [same, if_false, Option.map_none,
      Option.map_some]

/-- Looking for an id, an action is the first one found if it has the id. -/
theorem find?_listingOf_action (id own : StepId) (act : Action) (rest : List Step)
    : (listingOf (.action own act :: rest)).find? (·.id == id)
      = if own = id then some (.action own act) else (listingOf rest).find? (·.id == id) := by
  rw [listingOf_action, List.find?_cons]
  by_cases same : own = id <;> simp [same, beq_eq_false_iff_ne.mpr]

/-- Looking for an id, a statement comes before its body, and the body before the rest. -/
theorem find?_listingOf_statement (id own : StepId) (stmt : Statement) (body rest : List Step)
    : (listingOf (.statement own stmt body :: rest)).find? (·.id == id)
      = if own = id then some (.statement own stmt body)
        else
          ((listingOf body).find? (·.id == id)).or ((listingOf rest).find? (·.id == id)) := by
  rw [listingOf_statement, List.find?_cons, List.find?_append]
  by_cases same : own = id <;> simp [same, beq_eq_false_iff_ne.mpr]

/-- An edit in place applies exactly if a step has the id, by induction over the nested lists. -/
theorem editFirst?_isSome (id : StepId) (edit : Step → Step) (steps : List Step)
    : (editFirst? id edit steps).isSome = ((listingOf steps).find? (·.id == id)).isSome := by
  induction steps using steps_induction with
  | nil => rfl
  | action own act rest ih =>
      rw [editFirst?_action, find?_listingOf_action]
      by_cases same : own = id <;> simp [same, ih]
  | statement own stmt body rest bodyIH restIH =>
      rw [editFirst?_statement, find?_listingOf_statement]
      by_cases same : own = id
      · simp only [same, if_true, Option.isSome_some]
      · simp only [same, if_false, Option.isSome_or, ← bodyIH, ← restIH]
        cases editFirst? id edit body <;> simp

/-- Steps, and the same steps with one put in the place of another, at any depth. -/
inductive Exchange (old new : Step) : List Step → List Step → Prop
  | here (rest : List Step) : Exchange old new (old :: rest) (new :: rest)
  | within {id stmt body edited} (rest : List Step) (inner : Exchange old new body edited)
    : Exchange old new (.statement id stmt body :: rest) (.statement id stmt edited :: rest)
  | behind {rest edited} (step : Step) (later : Exchange old new rest edited)
    : Exchange old new (step :: rest) (step :: edited)

/-- An edit in place exchanges the first step with the id. -/
theorem editFirst?_exchange {id : StepId} {edit : Step → Step} {steps edited : List Step}
    (found : editFirst? id edit steps = some edited)
    : ∃ old,
        (listingOf steps).find? (·.id == id) = some old
        ∧ Exchange old (edit old) steps edited := by
  induction steps using steps_induction generalizing edited with
  | nil => simp [editFirst?] at found
  | action own act rest ih =>
      rw [editFirst?_action] at found
      rw [find?_listingOf_action]
      split at found
      · next same =>
          obtain rfl := Option.some.inj found
          exact ⟨.action own act, if_pos same, .here rest⟩
      · next differs =>
          obtain ⟨tail, inRest, rfl⟩ := Option.map_eq_some_iff.mp found
          obtain ⟨old, isFirst, later⟩ := ih inRest
          exact ⟨old, by rw [if_neg differs, isFirst], later.behind _⟩
  | statement own stmt body rest bodyIH restIH =>
      rw [editFirst?_statement] at found
      rw [find?_listingOf_statement]
      split at found
      · next same =>
          obtain rfl := Option.some.inj found
          exact ⟨.statement own stmt body, if_pos same, .here rest⟩
      · next differs =>
          rw [if_neg differs]
          cases within : editFirst? id edit body with
          | some inner =>
              rw [within] at found
              obtain rfl := Option.some.inj found
              obtain ⟨old, isFirst, inner⟩ := bodyIH within
              exact ⟨old, by rw [isFirst, Option.some_or], inner.within rest⟩
          | none =>
              rw [within] at found
              obtain ⟨tail, inRest, rfl⟩ := Option.map_eq_some_iff.mp found
              obtain ⟨old, isFirst, later⟩ := restIH inRest
              have absent := editFirst?_isSome id edit body
              rw [within, Option.isSome_none, eq_comm, Option.isSome_eq_false_iff,
                Option.isNone_iff_eq_none] at absent
              exact ⟨old, by rw [absent, Option.none_or, isFirst], later.behind _⟩

/-- The block of the old step in the listing gives way to that of the new step. -/
theorem Exchange.blocks {old new : Step} {steps edited : List Step}
    (exchange : Exchange old new steps edited)
    : ∃ before after,
        bareListing steps = before ++ bareListing [old] ++ after
        ∧ bareListing edited = before ++ bareListing [new] ++ after := by
  induction exchange with
  | here rest =>
      refine ⟨[], bareListing rest, ?_, ?_⟩ <;>
        rw [← List.singleton_append, bareListing_append, List.nil_append]
  | @within id stmt body edited rest inner ih =>
      obtain ⟨before, after, whole, new⟩ := ih
      refine ⟨(Step.statement id stmt body).bare :: before,
        after ++ bareListing rest, ?_, ?_⟩
      · simp [bareListing_cons, whole, Step.body?]
      · simp [bareListing_cons, new, Step.body?, Step.bare, Step.withBody]
  | @behind rest edited step later ih =>
      obtain ⟨before, after, whole, new⟩ := ih
      refine ⟨step.bare :: bareListing (step.body?.getD []) ++ before, after,
        ?_, ?_⟩
      · simp [bareListing_cons, whole]
      · simp [bareListing_cons, new]

-----------------------------------------------------------------------------------------
-- Taking out
-----------------------------------------------------------------------------------------

/-- A step is taken from among its siblings, which close up. -/
theorem takeSibling?_parts {id : StepId} {steps left : List Step} {taken : Step}
    (found : takeSibling? id steps = some (taken, left))
    : taken.id = id
      ∧ ∃ before after, steps = before ++ taken :: after ∧ left = before ++ after := by
  induction steps generalizing left with
  | nil => simp [takeSibling?] at found
  | cons step rest ih =>
      rw [takeSibling?] at found
      split at found
      · next same =>
          simp only [Option.some.injEq, Prod.mk.injEq] at found
          obtain ⟨rfl, rfl⟩ := found
          exact ⟨same, [], rest, rfl, rfl⟩
      · obtain ⟨⟨other, tail⟩, inRest, parts⟩ := Option.map_eq_some_iff.mp found
        simp only [Prod.mk.injEq] at parts
        obtain ⟨rfl, rfl⟩ := parts
        obtain ⟨own, before, after, rfl, rfl⟩ := ih inRest
        exact ⟨own, step :: before, after, rfl, rfl⟩

/-- Nothing is taken from within an action. -/
theorem takeBelow?_action (id own : StepId) (act : Action) (rest : List Step)
    : takeBelow? id (.action own act :: rest)
      = (takeBelow? id rest).map fun (taken, left) => (taken, .action own act :: left) := by
  rw [takeBelow?, Step.takeBelow?]

/-- A step is taken from the body of a statement if it is there, and else from the rest. -/
theorem takeBelow?_statement (id own : StepId) (stmt : Statement) (body rest : List Step)
    : takeBelow? id (.statement own stmt body :: rest)
      = match takeStep? id body with
        | some (taken, left) => some (taken, .statement own stmt left :: rest)
        | none =>
            (takeBelow? id rest).map fun (taken, left) =>
              (taken, .statement own stmt body :: left) := by
  rw [takeBelow?, Step.takeBelow?, takeStep?]
  cases takeSibling? id body with
  | some parts => rfl
  | none => cases takeBelow? id body <;> rfl

/-- Steps, and the same steps without some that stand side by side, at any depth. -/
inductive Cut (gone : List Step) : List Step → List Step → Prop
  | here (rest : List Step) : Cut gone (gone ++ rest) rest
  | within {id stmt body left} (rest : List Step) (inner : Cut gone body left)
    : Cut gone (.statement id stmt body :: rest) (.statement id stmt left :: rest)
  | behind {rest left} (step : Step) (later : Cut gone rest left)
    : Cut gone (step :: rest) (step :: left)

/-- A cut stays one behind any steps in front, by induction on these. -/
theorem Cut.behindAll {gone steps left : List Step} (before : List Step)
    (cut : Cut gone steps left)
    : Cut gone (before ++ steps) (before ++ left) := by
  induction before with
  | nil => exact cut
  | cons step rest ih => exact ih.behind step

/-- What is cut out is listed before. -/
theorem Cut.listed {gone steps left : List Step} (cut : Cut gone steps left) {step : Step}
    (member : step ∈ listingOf gone)
    : step ∈ listingOf steps := by
  induction cut with
  | here rest =>
      rw [listingOf_append]
      exact List.mem_append_left _ member
  | within rest _ ih =>
      rw [listingOf_statement]
      exact List.mem_cons_of_mem _ (List.mem_append_left _ ih)
  | behind step _ ih => exact List.mem_append_right _ ih

/-- A cut leaves a gap in the listing, as wide as the steps that are gone with all within them. -/
theorem Cut.gap {gone steps left : List Step} (cut : Cut gone steps left)
    : ∃ before after,
        bareListing steps = before ++ bareListing gone ++ after
        ∧ bareListing left = before ++ after := by
  induction cut with
  | here rest => exact ⟨[], bareListing rest, by rw [bareListing_append, List.nil_append], rfl⟩
  | @within id stmt body left rest _ ih =>
      obtain ⟨before, after, whole, gap⟩ := ih
      refine ⟨(Step.statement id stmt body).bare :: before, after ++ bareListing rest, ?_, ?_⟩
      · simp [bareListing_cons, whole, Step.body?]
      · simp [bareListing_cons, gap, Step.body?, Step.bare, Step.withBody]
  | @behind rest left step _ ih =>
      obtain ⟨before, after, whole, gap⟩ := ih
      refine ⟨bareListing [step] ++ before, after, ?_, ?_⟩
      · rw [← List.singleton_append, bareListing_append, whole]
        simp only [List.append_assoc]
      · rw [← List.singleton_append, bareListing_append, gap, List.append_assoc]

/-- What is cut out and what is left make up the whole in the bare listing, but for the order. -/
theorem Cut.perm {gone steps left : List Step} (cut : Cut gone steps left)
    : (bareListing steps).Perm (bareListing gone ++ bareListing left) := by
  obtain ⟨before, after, whole, rest⟩ := cut.gap
  rw [whole, rest]
  exact block_perm ..

/-- All steps of a list are cut out at once. -/
theorem cut_all (steps : List Step) : Cut steps steps [] := by
  have all : Cut steps (steps ++ []) [] := .here []
  rwa [List.append_nil] at all

/-- What is cut out of a body is cut out of the steps around it, when the statement is exchanged for
one with what is left of the body.
-/
theorem Exchange.cut {id : StepId} {stmt : Statement} {gone body kept steps left : List Step}
    (exchange : Exchange (.statement id stmt body) (.statement id stmt kept) steps left)
    (inner : Cut gone body kept)
    : Cut gone steps left := by
  generalize isOld : Step.statement id stmt body = old at exchange
  generalize isNew : Step.statement id stmt kept = new at exchange
  induction exchange with
  | here rest =>
      subst isOld isNew
      exact inner.within rest
  | within rest _ ih => exact ih.within rest
  | behind step _ ih => exact ih.behind step

/-- A step with an id is cut out alone. -/
structure TakenOut (id : StepId) (steps : List Step) (taken : Step) (left : List Step)
    : Prop where
  own : taken.id = id
  cut : Cut [taken] steps left

/-- A step that is taken out was listed. -/
theorem TakenOut.listed {id : StepId} {steps left : List Step} {taken : Step}
    (out : TakenOut id steps taken left)
    : taken ∈ listingOf steps :=
  out.cut.listed (List.mem_append_left _ (mem_listing taken))

/-- A step that is taken out, with all within it, and what is left make up the whole. -/
theorem TakenOut.perm {id : StepId} {steps left : List Step} {taken : Step}
    (out : TakenOut id steps taken left)
    : (bareListing steps).Perm (bareListing [taken] ++ bareListing left) :=
  out.cut.perm

/-- Taking a step from among its siblings takes it out. -/
theorem takeSibling?_takenOut {id : StepId} {steps left : List Step} {taken : Step}
    (found : takeSibling? id steps = some (taken, left))
    : TakenOut id steps taken left := by
  obtain ⟨own, before, after, rfl, rfl⟩ := takeSibling?_parts found
  exact ⟨own, (Cut.here after).behindAll before⟩

/-- A body is searched before the rest of the list, so the induction runs over both at once. -/
theorem takeBelow?_takenOut {id : StepId} {steps left : List Step} {taken : Step}
    (found : takeBelow? id steps = some (taken, left))
    : TakenOut id steps taken left := by
  induction steps using steps_induction generalizing left with
  | nil => simp [takeBelow?] at found
  | action own act rest ih =>
      rw [takeBelow?_action] at found
      obtain ⟨⟨other, tail⟩, inRest, parts⟩ := Option.map_eq_some_iff.mp found
      simp only [Prod.mk.injEq] at parts
      obtain ⟨rfl, rfl⟩ := parts
      obtain ⟨own, cut⟩ := ih inRest
      exact ⟨own, cut.behind _⟩
  | statement own stmt body rest bodyIH restIH =>
      rw [takeBelow?_statement] at found
      cases within : takeStep? id body with
      | some parts =>
          obtain ⟨inner, kept⟩ := parts
          simp only [within, Option.some.injEq, Prod.mk.injEq] at found
          obtain ⟨rfl, rfl⟩ := found
          have out : TakenOut id body inner kept := by
            rcases Option.or_eq_some_iff.mp within with sibling | ⟨_, below⟩
            · exact takeSibling?_takenOut sibling
            · exact bodyIH below
          exact ⟨out.own, out.cut.within rest⟩
      | none =>
          rw [within] at found
          obtain ⟨⟨other, tail⟩, inRest, parts⟩ := Option.map_eq_some_iff.mp found
          simp only [Prod.mk.injEq] at parts
          obtain ⟨rfl, rfl⟩ := parts
          obtain ⟨own, cut⟩ := restIH inRest
          exact ⟨own, cut.behind _⟩

/-- Taking a step from any depth takes it out: from its siblings, or from below one of them. -/
theorem takeStep?_takenOut {id : StepId} {steps left : List Step} {taken : Step}
    (found : takeStep? id steps = some (taken, left))
    : TakenOut id steps taken left := by
  rcases Option.or_eq_some_iff.mp found with sibling | ⟨_, below⟩
  · exact takeSibling?_takenOut sibling
  · exact takeBelow?_takenOut below

/-- Moving an item keeps all items. -/
theorem moveItem_perm {α : Type} (source destination : Nat) (items : List α)
    (inside : destination < items.length)
    : (moveItem source destination items).Perm items := by
  rw [moveItem]
  split
  · next item found =>
      have below : source < items.length := (List.getElem?_eq_some_iff.mp found).1
      have room : destination ≤ (items.eraseIdx source).length := by
        rw [List.length_eraseIdx_of_lt below]
        omega
      have moved := List.perm_insertIdx item (items.eraseIdx source) room
      have same : items[source] = item := (List.getElem?_eq_some_iff.mp found).2
      exact moved.trans (same ▸ List.getElem_cons_eraseIdx_perm below)
  · exact .rfl

-----------------------------------------------------------------------------------------
-- Trees
-----------------------------------------------------------------------------------------

namespace StepTree

theorem toList_eq (tree : StepTree) : tree.toList = listingOf tree.steps :=
  walk_eq_listingOf tree.steps

/-- A change of the siblings in a container changes their block of the listing. -/
theorem editSiblings?_bareListing {tree after : StepTree} {container : Option StepId}
    {edit : List Step → List Step} (edited : tree.editSiblings? container edit = some after)
    : ∃ siblings before behind,
        tree.siblings? container = some siblings
        ∧ bareListing tree.steps = before ++ bareListing siblings ++ behind
        ∧ bareListing after.steps = before ++ bareListing (edit siblings) ++ behind := by
  cases container with
  | none =>
      obtain rfl := Option.some.inj edited
      exact ⟨tree.steps, [], [], rfl, by simp, by simp⟩
  | some id =>
      rw [editSiblings?] at edited
      split at edited
      · next isContainer =>
          obtain ⟨steps, changed, rfl⟩ := Option.map_eq_some_iff.mp edited
          obtain ⟨old, found, exchange⟩ := editFirst?_exchange changed
          obtain ⟨before, behind, whole, new⟩ := exchange.blocks
          have found : tree.find? id = some old := by rw [find?, toList_eq, found]
          cases old with
          | action own act => simp [found, Step.isContainer, Step.body?] at isContainer
          | statement own stmt body =>
              refine ⟨body, before ++ [(Step.statement own stmt body).bare], behind, ?_, ?_, ?_⟩
              · simp [siblings?, found, Step.body?]
              · simp [whole, bareListing_cons, Step.body?]
              · simp [new, bareListing_cons, Step.body?, Step.withBody, Step.bare]
      · simp at edited

/-- The siblings in a container can be changed exactly if they can be listed. -/
theorem editSiblings?_isSome (tree : StepTree) (container : Option StepId)
    (edit : List Step → List Step)
    : (tree.editSiblings? container edit).isSome = (tree.siblings? container).isSome := by
  cases container with
  | none => rfl
  | some id =>
      simp only [editSiblings?, siblings?]
      cases found : tree.find? id with
      | none => rfl
      | some old =>
          have listed := found
          rw [find?, toList_eq] at listed
          cases old <;> simp [Step.isContainer, Step.body?, editFirst?_isSome, listed]

/-- Inserting a step adds it with all within it, and keeps all other steps. -/
theorem insert?_perm {tree after : StepTree} {step : Step} {parent : Option StepId}
    (inserted : tree.insert? step parent = some after)
    : (bareListing after.steps).Perm (bareListing [step] ++ bareListing tree.steps) := by
  obtain ⟨siblings, before, behind, _, whole, new⟩ := editSiblings?_bareListing inserted
  rw [whole, new, bareListing_append, ← List.append_assoc before]
  exact block_perm ..

/-- Removing a step takes it out of the tree. -/
theorem remove?_takenOut {tree left : StepTree} {id : StepId} {taken : Step}
    (removed : tree.remove? id = some (taken, left))
    : TakenOut id tree.steps taken left.steps := by
  obtain ⟨⟨step, steps⟩, found, parts⟩ := Option.map_eq_some_iff.mp removed
  simp only [Prod.mk.injEq] at parts
  obtain ⟨rfl, rfl⟩ := parts
  exact takeStep?_takenOut found

/-- The step that a search by the id finds gives way to its replacement, and nothing else changes.
-/
theorem replace?_perm {tree after : StepTree} {id : StepId} {step : Step}
    (replaced : tree.replace? id step = some after)
    : ∃ old rest,
        tree.find? id = some old
        ∧ (bareListing tree.steps).Perm (bareListing [old] ++ rest)
        ∧ (bareListing after.steps).Perm (bareListing [step] ++ rest) := by
  rw [replace?] at replaced
  split at replaced
  · obtain ⟨edited, changed, rfl⟩ := Option.map_eq_some_iff.mp replaced
    obtain ⟨old, found, exchange⟩ := editFirst?_exchange changed
    obtain ⟨before, behind, whole, new⟩ := exchange.blocks
    refine ⟨old, before ++ behind, by rw [find?, toList_eq, found], ?_, ?_⟩
    · rw [whole]
      exact block_perm ..
    · rw [new]
      exact block_perm ..
  · simp at replaced

/-- Reordering keeps all steps. -/
theorem reorder?_perm {tree after : StepTree} {source destination : Nat}
    {container : Option StepId}
    (moved : tree.reorder? source destination container = some after)
    : (bareListing after.steps).Perm (bareListing tree.steps) := by
  obtain ⟨siblings, listed, moved⟩ := Option.bind_eq_some_iff.mp moved
  split at moved
  · next inside =>
      obtain ⟨others, before, behind, same, whole, new⟩ := editSiblings?_bareListing moved
      obtain rfl := Option.some.inj (listed.symm.trans same)
      rw [whole, new]
      exact ((bareListing_perm (moveItem_perm _ _ _ inside.2)).append_left _).append_right _
  · simp at moved

/-- What is cleared is cut out of the tree: all siblings of the place at once. -/
theorem clear?_cut {tree left : StepTree} {removed : List Step} {container : Option StepId}
    (cleared : tree.clear? container = some (removed, left))
    : tree.siblings? container = some removed ∧ Cut removed tree.steps left.steps := by
  obtain ⟨siblings, listed, cleared⟩ := Option.bind_eq_some_iff.mp cleared
  obtain ⟨emptied, edited, parts⟩ := Option.bind_eq_some_iff.mp cleared
  simp only [Option.pure_def, Option.some.injEq, Prod.mk.injEq] at parts
  obtain ⟨rfl, rfl⟩ := parts
  refine ⟨listed, ?_⟩
  cases container with
  | none =>
      obtain rfl := Option.some.inj listed
      obtain rfl := Option.some.inj edited
      exact cut_all tree.steps
  | some id =>
      rw [editSiblings?] at edited
      split at edited
      · obtain ⟨steps, changed, rfl⟩ := Option.map_eq_some_iff.mp edited
        obtain ⟨old, found, exchange⟩ := editFirst?_exchange changed
        rw [siblings?, find?, toList_eq, found] at listed
        cases old with
        | action own act => simp [Step.body?] at listed
        | statement own stmt body =>
            obtain rfl : body = siblings := Option.some.inj listed
            exact exchange.cut (cut_all body)
      · simp at edited

/-- What is cleared and what is left make up the tree as it was. -/
theorem clear?_perm {tree left : StepTree} {removed : List Step} {container : Option StepId}
    (cleared : tree.clear? container = some (removed, left))
    : (bareListing tree.steps).Perm (bareListing removed ++ bareListing left.steps) :=
  (clear?_cut cleared).2.perm

end StepTree

end DesktopAutomation
