import DesktopAutomation.Proofs.Editor.Admission
import DesktopAutomation.Proofs.Tree.Pruning

/-! Clearing a place beside removing its steps one by one. Either way steps are cut out of the tree
and what they declare out of the variables. Where ids are unique, the ids alone tell which tree is
left, and this tells which variables went.
-/

namespace DesktopAutomation

-----------------------------------------------------------------------------------------
-- Siblings
-----------------------------------------------------------------------------------------

/-- Two steps differ, and neither lies within the other. -/
def StepTree.Apart (tree : StepTree) (first second : StepId) : Prop :=
  first ≠ second ∧ ¬tree.Holds first second ∧ ¬tree.Holds second first

/-- The siblings in a place are listed with all within them. -/
theorem StepTree.siblings?_sublist {tree : StepTree} {container : Option StepId}
    {siblings : List Step} (listed : tree.siblings? container = some siblings)
    : (listingOf siblings).Sublist (listingOf tree.steps) := by
  cases container with
  | none =>
      obtain rfl := Option.some.inj listed
      exact .refl _
  | some id =>
      obtain ⟨holder, found, body⟩ := Option.bind_eq_some_iff.mp listed
      have isListed : holder ∈ listingOf tree.steps := by
        rw [← toList_eq]
        exact List.mem_of_find?_eq_some found
      have within := body_sublist isListed
      rwa [body] at within

/-- Steps that stand side by side are listed in blocks that share no id. -/
theorem listing_disjoint {steps : List Step} (distinct : ((listingOf steps).map Step.id).Nodup)
    : steps.Pairwise fun first second =>
        (first.listing.map Step.id).Disjoint (second.listing.map Step.id) := by
  induction steps with
  | nil => exact .nil
  | cons first rest ih =>
      rw [listingOf, List.map_append, List.nodup_append'] at distinct
      obtain ⟨-, restDistinct, apart⟩ := distinct
      refine .cons (fun second isBehind id inFirst inSecond => apart inFirst ?_) (ih restDistinct)
      obtain ⟨step, inside, rfl⟩ := List.mem_map.mp inSecond
      exact List.mem_map_of_mem (mem_listingOf_of_mem isBehind inside)

/-- Where ids are unique, steps in blocks that share no id lie apart. -/
theorem StepTree.apart_of_disjoint {tree : StepTree}
    (distinct : (tree.toList.map Step.id).Nodup) {first second : Step}
    (firstListed : first ∈ tree.toList) (secondListed : second ∈ tree.toList)
    (disjoint : (first.listing.map Step.id).Disjoint (second.listing.map Step.id))
    : tree.Apart first.id second.id := by
  have own (step : Step) : step.id ∈ step.listing.map Step.id :=
    List.mem_map_of_mem (mem_listing step)
  have within {outer : Step} (listed : outer ∈ tree.toList) {inner : StepId}
      (holds : tree.Holds outer.id inner)
      : inner ∈ outer.listing.map Step.id := by
    have below := (holds_iff distinct (find?_of_mem distinct listed) inner).mp holds
    rw [Step.listing_eq, List.map_cons]
    exact List.mem_cons_of_mem _ (Step.mem_idsWithin.mp below)
  refine ⟨fun same => disjoint (own first) (same ▸ own second), fun holds => ?_, fun holds => ?_⟩
  · exact disjoint (within firstListed holds) (own second)
  · exact disjoint (own first) (within secondListed holds)

/-- Where ids are unique, siblings are steps of the tree that lie apart. -/
theorem StepTree.siblings?_apart {tree : StepTree}
    (distinct : (tree.toList.map Step.id).Nodup) {container : Option StepId}
    {siblings : List Step} (listed : tree.siblings? container = some siblings)
    : (∀ id ∈ siblings.map Step.id, tree.contains id = true)
      ∧ (siblings.map Step.id).Pairwise tree.Apart := by
  have block := siblings?_sublist listed
  rw [← toList_eq tree] at block
  have inTree : ∀ step ∈ siblings, step ∈ tree.toList := fun step member =>
    block.subset (mem_listingOf_of_mem member (mem_listing step))
  constructor
  · intro id isSibling
    obtain ⟨step, member, rfl⟩ := List.mem_map.mp isSibling
    exact contains_iff.mpr (List.mem_map_of_mem (inTree step member))
  · rw [List.pairwise_map]
    refine (listing_disjoint (distinct.sublist (block.map _))).imp_of_mem ?_
    intro first second isFirst isSecond disjoint
    exact apart_of_disjoint distinct (inTree first isFirst) (inTree second isSecond) disjoint

theorem StepTree.Apart.symm {tree : StepTree} {first second : StepId}
    (apart : tree.Apart first second)
    : tree.Apart second first :=
  ⟨apart.1.symm, apart.2.2, apart.2.1⟩

/-- Steps that lay apart before a cut lie apart behind it. -/
theorem StepTree.Apart.of_cut {before after : StepTree} {gone : List Step}
    {first second : StepId} (apart : before.Apart first second)
    (cut : Cut gone before.steps after.steps)
    : after.Apart first second := by
  have held {outer inner : StepId} (holds : after.Holds outer inner)
      : before.Holds outer inner := by
    obtain ⟨step, listed, rfl, within⟩ := holds
    rw [toList_eq] at listed
    obtain ⟨former, wasListed, same, more⟩ := cut.former_of_left listed
    exact ⟨former, toList_eq before ▸ wasListed, same, more within⟩
  obtain ⟨differ, notBelow, notAbove⟩ := apart
  exact ⟨differ, mt held notBelow, mt held notAbove⟩

namespace EditorSession

-----------------------------------------------------------------------------------------
-- Removing one by one
-----------------------------------------------------------------------------------------

/-- Takes steps out of the tree one after the other, each with what it declares. -/
def removeAll (session : EditorSession) : List StepId → Except AutomationError EditorSession
  | [] => .ok session
  | id :: rest => (session.remove id).bind fun removed => removed.2.removeAll rest

/-- Some bare steps go from a session, with the keys that they declare. Nothing else changes. -/
structure Sheds (before after : EditorSession) (gone : List Step) : Prop where
  listed
    : (bareListing before.steps.steps).Perm (gone ++ bareListing after.steps.steps)
  unbound
    : ∀ key,
        after.environment.bindings.find? key
        = if key ∈ gone.filterMap Step.declaredKey? then none
          else before.environment.bindings.find? key
  shadows : after.environment.shadows = before.environment.shadows
  createdAt : after.createdAt = before.createdAt
  device : after.device = before.device

theorem Sheds.refl (session : EditorSession) : session.Sheds session [] where
  listed := .rfl
  unbound _ := rfl
  shadows := rfl
  createdAt := rfl
  device := rfl

theorem Sheds.trans {first second third : EditorSession} {gone more : List Step}
    (earlier : first.Sheds second gone) (later : second.Sheds third more)
    : first.Sheds third (gone ++ more) where
  listed := by
    rw [List.append_assoc]
    exact earlier.listed.trans (later.listed.append_left gone)
  unbound key := by
    rw [later.unbound, earlier.unbound, List.filterMap_append]
    grind
  shadows := later.shadows.trans earlier.shadows
  createdAt := later.createdAt.trans earlier.createdAt
  device := later.device.trans earlier.device

/-- What is left of the tree tells what is left of the session: the steps that went are the others
of the session, up to their order.
-/
theorem Sheds.eq_of_steps {session after other : EditorSession} {gone otherGone : List Step}
    (sheds : session.Sheds after gone) (otherSheds : session.Sheds other otherGone)
    (same : after.steps = other.steps)
    : after = other := by
  have steps : gone.Perm otherGone := by
    have both := sheds.listed.symm.trans otherSheds.listed
    rw [same] at both
    exact (List.perm_append_right_iff _).mp both
  have bindings : after.environment.bindings = other.environment.bindings := by
    refine NameMap.ext_find? fun key => ?_
    rw [sheds.unbound, otherSheds.unbound]
    simp only [(steps.filterMap Step.declaredKey?).mem_iff]
  have shadows := sheds.shadows.trans otherSheds.shadows.symm
  have createdAt := sheds.createdAt.trans otherSheds.createdAt.symm
  have device := sheds.device.trans otherSheds.device.symm
  obtain ⟨_, ⟨_, _⟩, _, _⟩ := after
  obtain ⟨_, ⟨_, _⟩, _, _⟩ := other
  simp_all

/-- What is removed or cleared at once is shed. -/
theorem TakesOut.sheds {session after : EditorSession} {taken : List Step}
    (distinct : (session.steps.toList.map Step.id).Nodup)
    (takesOut : session.TakesOut taken after)
    : session.Sheds after (bareListing taken) := by
  have unbound := takesOut.find? distinct
  simp only [declaredKeys, walk_eq_listingOf, ← bareListing_declaredKeys] at unbound
  have listed := takesOut.listed
  cases takesOut with
  | removed accepted =>
      have environment := (remove_eq_deleteAll distinct accepted).2
      obtain ⟨steps, _, rfl⟩ := remove_eq_ok accepted
      exact ⟨listed, unbound, environment ▸ Environment.deleteAll_shadows .., rfl, rfl⟩
  | cleared accepted =>
      obtain ⟨steps, _, rfl⟩ := clear_eq_ok accepted
      exact ⟨listed, unbound, Environment.deleteAll_shadows .., rfl, rfl⟩

/-- Where ids are unique, steps that lie apart can all be removed, by induction over their ids: what
is left behind each removal still has the others, and they still lie apart.
-/
theorem removeAll_eq_ok {session : EditorSession} {ids : List StepId}
    (distinct : (session.steps.toList.map Step.id).Nodup)
    (present : ∀ id ∈ ids, session.steps.contains id = true)
    (apart : ids.Pairwise session.steps.Apart)
    : ∃ after gone,
        session.removeAll ids = .ok after
        ∧ session.Sheds after gone
        ∧ after.steps = ⟨prunedAll ids session.steps.steps⟩ := by
  induction ids generalizing session with
  | nil =>
      refine ⟨session, [], rfl, .refl session, ?_⟩
      rw [prunedAll_of_not_mem fun _ _ => List.not_mem_nil]
  | cons id rest ih =>
      obtain ⟨isPresent, othersPresent⟩ := List.forall_mem_cons.mp present
      obtain ⟨fromFirst, apartRest⟩ := List.pairwise_cons.mp apart
      obtain ⟨taken, left, accepted⟩ :=
        (remove_accepted_iff session id).mpr (StepTree.contains_iff.mp isPresent)
      obtain ⟨⟨rfl, cut⟩, -⟩ := remove_eq_deleteAll distinct accepted
      have listed := distinct
      rw [StepTree.toList_eq] at listed
      have inTree : taken ∈ session.steps.toList := by
        rw [StepTree.toList_eq]
        exact cut.listed (mem_listingOf_of_mem List.mem_cons_self (mem_listing taken))
      have leftDistinct : (left.steps.toList.map Step.id).Nodup := by
        rw [StepTree.toList_eq]
        exact listed.sublist cut.ids_sublist
      have stillPresent : ∀ other ∈ rest, left.steps.contains other = true := by
        intro other isOther
        obtain ⟨differs, notBelow, -⟩ := fromFirst other isOther
        rw [StepTree.contains_iff, StepTree.toList_eq]
        refine cut.id_left ?_ fun isGone => ?_
        · rw [← StepTree.toList_eq]
          exact StepTree.contains_iff.mp (othersPresent other isOther)
        · rw [listingOf, listingOf, List.append_nil, Step.listing_eq, List.map_cons] at isGone
          rcases List.mem_cons.mp isGone with same | within
          · exact differs same.symm
          · exact notBelow ⟨taken, inTree, rfl, Step.mem_idsWithin.mpr within⟩
      have stillApart := apartRest.imp fun apart => apart.of_cut cut
      obtain ⟨after, gone, succeeds, sheds, pruned⟩ := ih leftDistinct stillPresent stillApart
      refine ⟨after, bareListing [taken] ++ gone, ?_,
        ((TakesOut.removed accepted).sheds distinct).trans sheds, ?_⟩
      · rw [removeAll, accepted]
        exact succeeds
      · rw [pruned, cut.eq_prunedAll listed, prunedAll_prunedAll]
        rfl

/-- The order in which such steps are removed does not matter. -/
theorem removeAll_perm {session : EditorSession} {ids order : List StepId}
    (distinct : (session.steps.toList.map Step.id).Nodup)
    (present : ∀ id ∈ ids, session.steps.contains id = true)
    (apart : ids.Pairwise session.steps.Apart) (same : order.Perm ids)
    : session.removeAll order = session.removeAll ids := by
  obtain ⟨after, gone, succeeds, sheds, left⟩ := removeAll_eq_ok distinct present apart
  obtain ⟨other, otherGone, otherSucceeds, otherSheds, otherLeft⟩ :=
    removeAll_eq_ok distinct (fun id member => present id (same.mem_iff.mp member))
      ((same.pairwise_iff fun apart => apart.symm).mpr apart)
  rw [prunedAll_perm same, ← left] at otherLeft
  rw [succeeds, otherSucceeds, otherSheds.eq_of_steps sheds otherLeft]

/-- A place that is cleared is left as by removing the steps in it one by one. -/
theorem removeAll_children {session after : EditorSession} {container : Option StepId}
    {children : List Step} (distinct : (session.steps.toList.map Step.id).Nodup)
    (listed : session.steps.siblings? container = some children)
    (accepted : session.clear container = .ok (children, after))
    : session.removeAll (children.map Step.id) = .ok after := by
  obtain ⟨present, apart⟩ := StepTree.siblings?_apart distinct listed
  obtain ⟨other, gone, succeeds, sheds, left⟩ := removeAll_eq_ok distinct present apart
  have cleared := (TakesOut.cleared accepted).sheds distinct
  have pruned : after.steps = ⟨prunedAll (children.map Step.id) session.steps.steps⟩ := by
    obtain ⟨steps, clearing, rfl⟩ := clear_eq_ok accepted
    rw [StepTree.toList_eq] at distinct
    exact congrArg StepTree.mk ((StepTree.clear?_cut clearing).2.eq_prunedAll distinct)
  rw [succeeds, sheds.eq_of_steps cleared (left.trans pruned.symm)]

/-- Where ids are unique, clearing the tree or a container succeeds, and the session is left as by
removing the steps that stand there one by one, in any order; and two steps of which neither lies
within the other can be removed in either order, which leaves the same session.
-/
theorem clear_eq_removeAll {session : EditorSession}
    (distinct : (session.steps.toList.map Step.id).Nodup)
    : (∀ container,
        IsPlace session.steps container
        → ∃ children after,
            session.steps.siblings? container = some children
            ∧ session.clear container = .ok (children, after)
            ∧ ∀ order,
                order.Perm (children.map Step.id) → session.removeAll order = .ok after)
      ∧ ∀ first second,
          session.steps.contains first = true
          → session.steps.contains second = true
          → first ≠ second
          → ¬session.steps.Holds first second
          → ¬session.steps.Holds second first
          → ∃ after,
              session.removeAll [first, second] = .ok after
              ∧ session.removeAll [second, first] = .ok after := by
  constructor
  · intro container place
    obtain ⟨children, after, accepted⟩ := (clear_accepted_iff distinct container).mpr place
    obtain ⟨steps, clearing, -⟩ := clear_eq_ok accepted
    have listed := (StepTree.clear?_cut clearing).1
    have oneByOne := removeAll_children distinct listed accepted
    obtain ⟨present, apart⟩ := StepTree.siblings?_apart distinct listed
    refine ⟨children, after, listed, accepted, fun order same => ?_⟩
    rw [removeAll_perm distinct present apart same, oneByOne]
  · intro first second firstPresent secondPresent differ notBelow notAbove
    have present : ∀ id ∈ [first, second], session.steps.contains id = true := by
      simp [firstPresent, secondPresent]
    have apart : [first, second].Pairwise session.steps.Apart := by
      simpa using ⟨differ, notBelow, notAbove⟩
    obtain ⟨after, _, succeeds, _⟩ := removeAll_eq_ok distinct present apart
    exact ⟨after, succeeds, (removeAll_perm distinct present apart (.swap ..)).trans succeeds⟩

/-- A cycle is cleared whose second step is a conditional with a body; the variables of two steps
are tied to others, and go all the same.
-/
theorem clear_eq_removeAll_tied
    : let condition : Condition := ⟨.literal "a", .equal, .literal "a"⟩
      let session : EditorSession := {
        steps :=
          ⟨[.statement ⟨1⟩ (.cycle "rows" "Row")
              [.action ⟨2⟩ (.setVariable "X" "x"),
                .statement ⟨3⟩ (.conditional condition) [.action ⟨4⟩ (.setVariable "Y" "y")]],
            .action ⟨5⟩ (.setVariable "Z" "z")]⟩
        environment :=
          ⟨.ofList [("x", .ofText ⟨5⟩ "x"), ("y", .ofText ⟨1⟩ "y"), ("z", .ofText ⟨2⟩ "z")], []⟩
        createdAt := none
        device := .blank .standard
      }
      (session.steps.toList.map Step.id).Nodup
      ∧ IsPlace session.steps (some ⟨1⟩)
      ∧ (∃ children after,
          session.clear (some ⟨1⟩) = .ok (children, after)
          ∧ children.map Step.id = [⟨2⟩, ⟨3⟩]
          ∧ session.removeAll [⟨2⟩, ⟨3⟩] = .ok after
          ∧ session.removeAll [⟨3⟩, ⟨2⟩] = .ok after)
      ∧ ∃ after,
          session.removeAll [⟨4⟩, ⟨5⟩] = .ok after
          ∧ session.removeAll [⟨5⟩, ⟨4⟩] = .ok after := by
  intro condition session
  have distinct : (session.steps.toList.map Step.id).Nodup := by decide +kernel
  have place : IsPlace session.steps (some ⟨1⟩) :=
    (isPlace_iff distinct (some ⟨1⟩)).mp (by decide +kernel)
  obtain ⟨clearing, removing⟩ := clear_eq_removeAll distinct
  obtain ⟨children, after, listed, accepted, oneByOne⟩ := clearing (some ⟨1⟩) place
  have siblings : (session.steps.siblings? (some ⟨1⟩)).map (·.map Step.id) = some [⟨2⟩, ⟨3⟩] := by
    decide +kernel
  rw [listed] at siblings
  have ids : children.map Step.id = [⟨2⟩, ⟨3⟩] := Option.some.inj siblings
  have below (outer inner : StepId) (step : Step) (found : session.steps.find? outer = some step)
      (outside : inner ∉ step.idsWithin)
      : ¬session.steps.Holds outer inner :=
    mt (StepTree.holds_iff distinct found inner).mp outside
  refine ⟨distinct, place, ⟨children, after, accepted, ids, ?_, ?_⟩, ?_⟩
  · exact oneByOne _ (ids ▸ .rfl)
  · exact oneByOne _ (ids ▸ .swap ..)
  · refine removing ⟨4⟩ ⟨5⟩ (by decide +kernel) (by decide +kernel) (by decide) ?_ ?_
    · exact below _ _ (.action ⟨4⟩ (.setVariable "Y" "y")) (by decide +kernel) (by decide +kernel)
    · exact below _ _ (.action ⟨5⟩ (.setVariable "Z" "z")) (by decide +kernel) (by decide +kernel)

end EditorSession

end DesktopAutomation
