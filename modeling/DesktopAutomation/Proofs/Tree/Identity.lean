import DesktopAutomation.Proofs.Tree.InPlace
import Mathlib.Algebra.Order.Group.Multiset
import Mathlib.Data.Multiset.UnionInter

/-! What edits do to the ids of a tree, counted over a whole walk. Every edit exchanges the ids of
the steps that it takes away for those of the steps that it brings, and no id is assumed to be
unique. So ids stay unique where only new ones are brought, and an id is lost only with a step
taken away.
-/

namespace DesktopAutomation

/-- The ids of steps and of all steps within them, as often as a walk comes by. -/
def idsOf (steps : List Step) : Multiset StepId := (walk steps).map Step.id

/-- The ids of steps are those of their bare listing. -/
theorem idsOf_eq (steps : List Step)
    : idsOf steps = ((bareListing steps).map Step.id : List _) := by
  rw [idsOf, walk_eq_listingOf, bareListing_ids]

/-- Steps that are listed in two parts have the ids of both. -/
theorem idsOf_of_perm {steps part : List Step} {rest : List Step}
    (listed : (bareListing steps).Perm (bareListing part ++ rest))
    : idsOf steps = idsOf part + (rest.map Step.id : List _) := by
  rw [idsOf_eq, idsOf_eq, Multiset.coe_add, ← List.map_append]
  exact Multiset.coe_eq_coe.mpr (listed.map _)

namespace StepTree

/-- The ids of all steps of a tree. -/
def ids (tree : StepTree) : Multiset StepId := idsOf tree.steps

/-- A tree contains an id exactly if it is among its ids. -/
theorem contains_iff_mem_ids {tree : StepTree} {id : StepId}
    : tree.contains id = true ↔ id ∈ tree.ids :=
  contains_iff

-----------------------------------------------------------------------------------------
-- One edit
-----------------------------------------------------------------------------------------

/-- An edit has a place in a tree. -/
def Edit.Applies (tree : StepTree) : Edit → Prop
  | .insert _ parent => (tree.siblings? parent).isSome
  | .remove id => tree.contains id
  | .replace id step => step.id = id ∧ tree.contains id
  | .reorder source destination container =>
    ∃ siblings,
      tree.siblings? container = some siblings
      ∧ source < siblings.length
      ∧ destination < siblings.length
  | .clear container => (tree.siblings? container).isSome

/-- The steps that an edit takes out of a tree, or out of whose place it puts another one. -/
def Edit.gone (tree : StepTree) (edit : Edit) : List Step :=
  match edit, (tree.editInPlace edit).1 with
  | _, none => []
  | .replace id _, some _ => (tree.find? id).toList
  | _, some taken => taken

/-- The steps that an edit brings into a tree. -/
def Edit.brought (tree : StepTree) (edit : Edit) : List Step :=
  match edit, (tree.editInPlace edit).1 with
  | .insert step _, some _ | .replace _ step, some _ => [step]
  | _, _ => []

/-- One tree has the ids of another one, except that those of some steps are exchanged for those of
others.
-/
def Exchanged (before after : StepTree) (gone brought : List Step) : Prop :=
  ∃ rest, before.ids = idsOf gone + rest ∧ after.ids = idsOf brought + rest

/-- How the edits of a tree that apply account for its ids, and what tells whether they apply. In
place they do what they do at once.
-/
structure Accounts (tree : StepTree) : Prop where
  atOnce : ∀ edit, tree.editInPlace edit = settle tree (tree.edited? edit)
  applies : ∀ edit, (tree.editInPlace edit).1.isSome ↔ edit.Applies tree
  refused : ∀ edit after, tree.editInPlace edit = (none, after) → after = tree
  insert
    : ∀ step parent taken after,
        tree.editInPlace (.insert step parent) = (some taken, after)
        → after.ids = tree.ids + idsOf [step]
  remove
    : ∀ id taken after,
        tree.editInPlace (.remove id) = (some taken, after)
        → ∃ step, taken = [step] ∧ step.id = id ∧ after.ids + idsOf [step] = tree.ids
  replace
    : ∀ id step taken after,
        tree.editInPlace (.replace id step) = (some taken, after)
        → ∃ old, tree.find? id = some old ∧ after.ids + idsOf [old] = tree.ids + idsOf [step]
  reorder
    : ∀ source destination container taken after,
        tree.editInPlace (.reorder source destination container) = (some taken, after)
        → after.ids = tree.ids
  clear
    : ∀ container taken after,
        tree.editInPlace (.clear container) = (some taken, after)
        → after.ids + idsOf taken = tree.ids

/-- An edit in place applies exactly if the edit does, and with the same outcome. -/
theorem editInPlace_eq_some_iff {tree after : StepTree} {edit : Edit} {taken : List Step}
    : tree.editInPlace edit = (some taken, after) ↔ tree.edited? edit = some (taken, after) := by
  rw [editInPlace_eq]
  cases tree.edited? edit <;> simp [settle, Prod.ext_iff]

/-- An edit in place that does not apply leaves the tree as it is. -/
theorem editInPlace_of_none {tree after : StepTree} {edit : Edit}
    (refused : tree.editInPlace edit = (none, after))
    : after = tree := by
  rw [editInPlace_eq] at refused
  cases outcome : tree.edited? edit <;> simp_all [settle]

/-- An edit in place is carried out exactly if it applies. -/
theorem editInPlace_isSome (tree : StepTree) (edit : Edit)
    : (tree.editInPlace edit).1.isSome ↔ edit.Applies tree := by
  have settled : (tree.editInPlace edit).1.isSome = (tree.edited? edit).isSome := by
    rw [editInPlace_eq]
    cases tree.edited? edit <;> rfl
  rw [settled]
  cases edit with
  | insert step parent => simp [edited?, insert?, editSiblings?_isSome, Edit.Applies]
  | remove id => simp [edited?, remove?_isSome, Edit.Applies]
  | replace id step =>
      simp only [edited?, replace?, Edit.Applies, contains, find?, toList_eq, Option.isSome_map]
      split <;> simp_all [editFirst?_isSome]
  | reorder source destination container =>
      cases listed : tree.siblings? container with
      | none => simp [edited?, reorder?, listed, Edit.Applies]
      | some siblings =>
          have place := tree.editSiblings?_isSome container (moveItem source destination)
          rw [listed] at place
          by_cases inside : source < siblings.length ∧ destination < siblings.length <;>
            simp [edited?, reorder?, listed, inside, place, Edit.Applies]
  | clear container =>
      have place := tree.editSiblings?_isSome container fun _ => []
      cases listed : tree.siblings? container with
      | none => simp [edited?, clear?, listed, Edit.Applies]
      | some siblings =>
          rw [listed] at place
          obtain ⟨left, emptied⟩ := Option.isSome_iff_exists.mp place
          simp [edited?, clear?, listed, emptied, Edit.Applies]

theorem Exchanged.refl (tree : StepTree) : Exchanged tree tree [] [] := by
  have nothing : idsOf [] = 0 := idsOf_eq []
  refine ⟨tree.ids, ?_, ?_⟩ <;> rw [nothing, zero_add]

/-- Steps are exchanged if the others of both trees are the same, in any order. -/
theorem Exchanged.of_perm {before after : StepTree} {gone brought rest : List Step}
    (listedBefore : (bareListing before.steps).Perm (bareListing gone ++ rest))
    (listedAfter : (bareListing after.steps).Perm (bareListing brought ++ rest))
    : Exchanged before after gone brought :=
  ⟨_, idsOf_of_perm listedBefore, idsOf_of_perm listedAfter⟩

/-- The ids before, with those brought in, are the ids behind, with those that are gone. -/
theorem Exchanged.balance {before after : StepTree} {gone brought : List Step}
    (exchanged : Exchanged before after gone brought)
    : after.ids + idsOf gone = before.ids + idsOf brought := by
  obtain ⟨rest, whole, new⟩ := exchanged
  rw [whole, new]
  ac_rfl

/-- Every edit, whether it applies or not, exchanges what it takes away for what it brings. -/
theorem editInPlace_exchanged (tree : StepTree) (edit : Edit)
    : Exchanged tree (tree.editInPlace edit).2 (edit.gone tree) (edit.brought tree) := by
  rcases outcome : tree.editInPlace edit with ⟨_ | taken, after⟩
  · obtain rfl := editInPlace_of_none outcome
    have nothing : edit.gone after = [] ∧ edit.brought after = [] := by
      cases edit <;> simp [Edit.gone, Edit.brought, outcome]
    rw [nothing.1, nothing.2]
    exact .refl after
  · have applied := editInPlace_eq_some_iff.mp outcome
    cases edit with
    | insert step parent =>
        obtain ⟨_, inserted, parts⟩ := Option.map_eq_some_iff.mp applied
        obtain ⟨rfl, rfl⟩ := Prod.mk.inj parts
        simp only [Edit.gone, Edit.brought, outcome]
        exact .of_perm .rfl (insert?_perm inserted)
    | remove id =>
        obtain ⟨⟨step, _⟩, removed, parts⟩ := Option.map_eq_some_iff.mp applied
        obtain ⟨rfl, rfl⟩ := Prod.mk.inj parts
        simp only [Edit.gone, Edit.brought, outcome]
        exact .of_perm (remove?_takenOut removed).perm .rfl
    | replace id step =>
        obtain ⟨_, replaced, parts⟩ := Option.map_eq_some_iff.mp applied
        obtain ⟨rfl, rfl⟩ := Prod.mk.inj parts
        obtain ⟨old, rest, found, listedBefore, listedAfter⟩ := replace?_perm replaced
        simp only [Edit.gone, Edit.brought, outcome, found, Option.toList_some]
        exact .of_perm listedBefore listedAfter
    | reorder source destination container =>
        obtain ⟨_, moved, parts⟩ := Option.map_eq_some_iff.mp applied
        obtain ⟨rfl, rfl⟩ := Prod.mk.inj parts
        simp only [Edit.gone, Edit.brought, outcome]
        exact .of_perm .rfl (reorder?_perm moved)
    | clear container =>
        simp only [Edit.gone, Edit.brought, outcome]
        exact .of_perm (clear?_perm applied) .rfl

/-- Every edit of a tree is accounted for, kind by kind. -/
theorem accounts (tree : StepTree) : Accounts tree where
  atOnce := tree.editInPlace_eq
  applies := tree.editInPlace_isSome
  refused _ _ := editInPlace_of_none
  insert step parent taken after outcome := by
    have balance := (tree.editInPlace_exchanged (.insert step parent)).balance
    have applied := editInPlace_eq_some_iff.mp outcome
    obtain ⟨_, _, parts⟩ := Option.map_eq_some_iff.mp applied
    obtain ⟨rfl, rfl⟩ := Prod.mk.inj parts
    simpa [Edit.gone, Edit.brought, outcome, idsOf_eq] using balance
  remove id taken after outcome := by
    have balance := (tree.editInPlace_exchanged (.remove id)).balance
    have applied := editInPlace_eq_some_iff.mp outcome
    obtain ⟨⟨step, _⟩, removed, parts⟩ := Option.map_eq_some_iff.mp applied
    obtain ⟨rfl, rfl⟩ := Prod.mk.inj parts
    refine ⟨step, rfl, (remove?_takenOut removed).own, ?_⟩
    simpa [Edit.gone, Edit.brought, outcome, idsOf_eq] using balance
  replace id step taken after outcome := by
    have balance := (tree.editInPlace_exchanged (.replace id step)).balance
    have applied := editInPlace_eq_some_iff.mp outcome
    obtain ⟨_, replaced, parts⟩ := Option.map_eq_some_iff.mp applied
    obtain ⟨old, _, found, _, _⟩ := replace?_perm replaced
    refine ⟨old, found, ?_⟩
    simpa [Edit.gone, Edit.brought, outcome, found] using balance
  reorder source destination container taken after outcome := by
    have balance := (tree.editInPlace_exchanged (.reorder source destination container)).balance
    have applied := editInPlace_eq_some_iff.mp outcome
    obtain ⟨_, _, parts⟩ := Option.map_eq_some_iff.mp applied
    obtain ⟨rfl, rfl⟩ := Prod.mk.inj parts
    simpa [Edit.gone, Edit.brought, outcome, idsOf_eq] using balance
  clear container taken after outcome := by
    have balance := (tree.editInPlace_exchanged (.clear container)).balance
    simpa [Edit.gone, Edit.brought, outcome, idsOf_eq] using balance

-----------------------------------------------------------------------------------------
-- Sequences of edits
-----------------------------------------------------------------------------------------

/-- Carries out edits one after the other, whether they apply or not. -/
def editAll (tree : StepTree) (edits : List Edit) : StepTree :=
  edits.foldl (fun tree edit => (tree.editInPlace edit).2) tree

/-- The ids that edits take away on their way. -/
def goneAll : StepTree → List Edit → Multiset StepId
  | _, [] => 0
  | tree, edit :: rest => idsOf (edit.gone tree) + goneAll (tree.editInPlace edit).2 rest

/-- Whatever an edit brings has ids that differ and that are used nowhere else in the tree. -/
def Edit.BringsNew (tree : StepTree) (edit : Edit) : Prop :=
  (idsOf (edit.brought tree)).Nodup
  ∧ ∀ id ∈ idsOf (edit.brought tree), id ∉ tree.ids - idsOf (edit.gone tree)

instance (tree : StepTree) (edit : Edit) : Decidable (edit.BringsNew tree) :=
  inferInstanceAs (Decidable (_ ∧ _))

/-- All edits bring new ids on their way. -/
def BringNew : StepTree → List Edit → Prop
  | _, [] => True
  | tree, edit :: rest => edit.BringsNew tree ∧ BringNew (tree.editInPlace edit).2 rest

instance BringNew.decidable
    : (tree : StepTree) → (edits : List Edit) → Decidable (BringNew tree edits)
  | _, [] => isTrue trivial
  | tree, edit :: rest =>
    have := BringNew.decidable (tree.editInPlace edit).2 rest
    inferInstanceAs (Decidable (edit.BringsNew tree ∧ _))

/-- Ids stay distinct if those brought in differ, also from those that stay. -/
theorem Exchanged.nodup {before after : StepTree} {gone brought : List Step}
    (exchanged : Exchanged before after gone brought) (distinct : before.ids.Nodup)
    (differ : (idsOf brought).Nodup) (unused : ∀ id ∈ idsOf brought, id ∉ before.ids - idsOf gone)
    : after.ids.Nodup := by
  obtain ⟨rest, whole, new⟩ := exchanged
  rw [whole, add_tsub_cancel_left] at unused
  rw [whole, Multiset.nodup_add] at distinct
  rw [new, Multiset.nodup_add, Multiset.disjoint_left]
  exact ⟨differ, distinct.2.1, fun {id} => unused id⟩

/-- Ids stay unique, by induction over the edits. -/
theorem editAll_nodup {tree : StepTree} {edits : List Edit} (distinct : tree.ids.Nodup)
    (bringNew : BringNew tree edits)
    : (tree.editAll edits).ids.Nodup := by
  induction edits generalizing tree with
  | nil => exact distinct
  | cons edit rest ih =>
      obtain ⟨⟨differ, unused⟩, later⟩ := bringNew
      exact ih ((tree.editInPlace_exchanged edit).nodup distinct differ unused) later

/-- An id that does not go is still there. -/
theorem Exchanged.mem_of_not_mem {before after : StepTree} {gone brought : List Step}
    (exchanged : Exchanged before after gone brought) {id : StepId} (present : id ∈ before.ids)
    (stays : id ∉ idsOf gone)
    : id ∈ after.ids := by
  obtain ⟨rest, whole, new⟩ := exchanged
  rw [whole, Multiset.mem_add] at present
  rw [new, Multiset.mem_add]
  exact .inr (present.resolve_left stays)

/-- An id that is not taken away stays in the tree, by induction over the edits. -/
theorem mem_ids_editAll {tree : StepTree} {edits : List Edit} {id : StepId}
    (present : id ∈ tree.ids) (stays : id ∉ goneAll tree edits)
    : id ∈ (tree.editAll edits).ids := by
  induction edits generalizing tree with
  | nil => exact present
  | cons edit rest ih =>
      rw [goneAll, Multiset.mem_add, not_or] at stays
      exact ih ((tree.editInPlace_exchanged edit).mem_of_not_mem present stays.1) stays.2

/-- Edits are made one behind the other. -/
theorem editAll_append (tree : StepTree) (before later : List Edit)
    : tree.editAll (before ++ later) = (tree.editAll before).editAll later :=
  List.foldl_append ..

/-- On every tree, each edit accounts for the ids of the tree, and one that does not apply leaves
the tree as it is. So where edits bring only new ids, ids stay unique; and a search still finds
every id that was in the tree at some time and was not taken away since.
-/
theorem editAll_accounts
    : (∀ tree : StepTree, Accounts tree)
      ∧ ∀ (tree : StepTree) (edits : List Edit),
          tree.ids.Nodup
          → BringNew tree edits
          → (tree.editAll edits).ids.Nodup
            ∧ ∀ before later,
                edits = before ++ later
                → ∀ id,
                    (tree.editAll before).contains id = true
                    → id ∉ goneAll (tree.editAll before) later
                    → ∃ step, (tree.editAll edits).find? id = some step ∧ step.id = id := by
  refine ⟨accounts, fun tree edits distinct bringNew => ⟨editAll_nodup distinct bringNew, ?_⟩⟩
  rintro before later rfl id present stays
  have kept := mem_ids_editAll (contains_iff_mem_ids.mp present) stays
  rw [← editAll_append, ← contains_iff_mem_ids, contains] at kept
  obtain ⟨step, found⟩ := Option.isSome_iff_exists.mp kept
  exact ⟨step, found, by simpa using List.find?_some found⟩

/-- Steps are nested deeper, moved, replaced, removed and cleared away; one insert finds no
container. A step from the beginning and one that came later are still found at the end.
-/
theorem editAll_accounts_nested
    : let sleep (id : UInt64) : Step := .action ⟨id⟩ (.sleep 0)
      let cycle (id : UInt64) (body : List Step) : Step :=
        .statement ⟨id⟩ (.cycle "rows" "row") body
      let tree : StepTree := ⟨[sleep 1, cycle 2 [sleep 3, cycle 4 [sleep 5]], sleep 6]⟩
      let before : List StepTree.Edit :=
        [.insert (sleep 7) (some ⟨4⟩), .replace ⟨3⟩ (cycle 3 [sleep 8]),
          .insert (sleep 1) (some ⟨1⟩)]
      let later : List StepTree.Edit :=
        [.reorder 2 0 none, .remove ⟨4⟩, .insert (cycle 4 [sleep 9]) none, .clear (some ⟨4⟩)]
      tree.ids.Nodup
      ∧ BringNew tree (before ++ later)
      ∧ (tree.editAll (before ++ later)).ids.Nodup
      ∧ (tree.contains ⟨2⟩ = true ∧ ⟨2⟩ ∉ goneAll tree (before ++ later)
        ∧ ∃ step, (tree.editAll (before ++ later)).find? ⟨2⟩ = some step ∧ step.id = ⟨2⟩)
      ∧ ((tree.editAll before).contains ⟨8⟩ = true ∧ ⟨8⟩ ∉ goneAll (tree.editAll before) later
        ∧ ∃ step, (tree.editAll (before ++ later)).find? ⟨8⟩ = some step ∧ step.id = ⟨8⟩) := by
  intro sleep cycle tree before later
  have distinct : tree.ids.Nodup := by decide +kernel
  have bringNew : BringNew tree (before ++ later) := by decide +kernel
  have first : tree.contains ⟨2⟩ = true ∧ ⟨2⟩ ∉ goneAll tree (before ++ later) := by decide +kernel
  have second
      : (tree.editAll before).contains ⟨8⟩ = true ∧ ⟨8⟩ ∉ goneAll (tree.editAll before) later := by
    decide +kernel
  obtain ⟨_, runs⟩ := editAll_accounts
  obtain ⟨nodup, found⟩ := runs tree (before ++ later) distinct bringNew
  exact ⟨distinct, bringNew, nodup,
    ⟨first.1, first.2, found [] (before ++ later) rfl ⟨2⟩ first.1 first.2⟩,
    ⟨second.1, second.2, found before later rfl ⟨8⟩ second.1 second.2⟩⟩

end StepTree

end DesktopAutomation
