import DesktopAutomation.Proofs.Editor.Operation
import DesktopAutomation.Proofs.Tree.Lookup

/-! Every accepted edit replaces some steps by others, each counted without the steps within it.
The keys that only the former declare lose their bindings, the latter are registered, and all
other steps and bindings stay. Adding replaces nothing, removing and clearing replace by nothing.
-/

namespace DesktopAutomation

@[simp] theorem Step.bare_declaredKey? (step : Step)
    : step.bare.declaredKey? = step.declaredKey? := by
  rw [declaredKey?, declaredKey?, declaredName?, declaredName?, bare_declaration?]

theorem bareListing_declaredKeys (steps : List Step)
    : (bareListing steps).filterMap Step.declaredKey?
      = (listingOf steps).filterMap Step.declaredKey? := by
  rw [bareListing, List.filterMap_map]
  exact List.filterMap_congr fun step _ => step.bare_declaredKey?

namespace EditorSession
open Environment

/-- One change of a session: the bare steps `gone` give way to the bare steps `new`, which bring
no id and no key of the others; the bare steps `rest` stay.
-/
structure Replaces (before after : EditorSession) (gone new rest : List Step) : Prop where
  listedBefore : (bareListing before.steps.steps).Perm (gone ++ rest)
  listedAfter : (bareListing after.steps.steps).Perm (new ++ rest)
  distinctIds : ((new ++ rest).map Step.id).Nodup
  distinctKeys : (new.filterMap Step.declaredKey?).Nodup
  free
    : ∀ step ∈ new, ∀ key binding,
        step.declaredKey? = some key
        → before.environment.bindings.find? key = some binding
        → binding.owner = step.id
  registered
    : ∀ step ∈ new, ∀ name declared,
        step.declaration? = some (name, declared)
        → after.environment.bindings.find? (keyOf name) = some declared
  released
    : ∀ step ∈ gone, ∀ key binding,
        step.declaredKey? = some key
        → key ∉ new.filterMap Step.declaredKey?
        → before.environment.bindings.find? key = some binding
        → binding.owner = step.id
        → after.environment.bindings.find? key = none
  untouched
    : ∀ key,
        key ∉ (gone ++ new).filterMap Step.declaredKey?
        → after.environment.bindings.find? key = before.environment.bindings.find? key
  inherited
    : ∀ key binding,
        key ∉ new.filterMap Step.declaredKey?
        → after.environment.bindings.find? key = some binding
        → before.environment.bindings.find? key = some binding
  unshadowed : after.environment.shadows = []

/-- What holds of every session on the way: no two steps share an id, and nothing is shadowed. -/
structure Sound (session : EditorSession) : Prop where
  distinctIds : ((bareListing session.steps.steps).map Step.id).Nodup
  unshadowed : session.environment.shadows = []

theorem Replaces.sound {before after : EditorSession} {gone new rest : List Step}
    (change : Replaces before after gone new rest)
    : after.Sound :=
  ⟨(change.listedAfter.map _).nodup_iff.mpr change.distinctIds, change.unshadowed⟩

/-- A change that keeps the steps up to their order, and all variables. -/
theorem Replaces.of_perm {before after : EditorSession} (sound : before.Sound)
    (steps : (bareListing after.steps.steps).Perm (bareListing before.steps.steps))
    (environment : after.environment = before.environment)
    : Replaces before after [] [] (bareListing before.steps.steps) where
  listedBefore := .rfl
  listedAfter := steps
  distinctIds := sound.distinctIds
  distinctKeys := .nil
  free := by simp
  registered := by simp
  released := by simp
  untouched := by simp [environment]
  inherited := by simp [environment]
  unshadowed := environment ▸ sound.unshadowed

/-- A key that an admitted step declares is free, or the step has its variable already. -/
theorem Sound.free_of_admitted {session : EditorSession} (sound : session.Sound) {step : Step}
    (admitted : session.stepConflict? step = none) {key : String} {binding : Variable}
    (declares : step.bare.declaredKey? = some key)
    (bound : session.environment.bindings.find? key = some binding)
    : binding.owner = step.bare.id := by
  rw [stepConflict?, Option.or_eq_none_iff] at admitted
  rw [Step.bare_declaredKey?, Step.declaredKey?] at declares
  obtain ⟨name, declared, rfl⟩ := Option.map_eq_some_iff.mp declares
  rw [Step.bare_id]
  apply (ownershipConflict?_eq_none_iff ..).mp admitted.1 name declared binding
  rwa [get?_of_unshadowed sound.unshadowed]

/-- Adding replaces nothing: the ids and keys of the new steps are new and differ. -/
theorem add_replaces {session after : EditorSession} {step : Step} {parent : Option StepId}
    (sound : session.Sound) (accepted : session.add step parent = .ok after)
    : Replaces session after [] (bareListing [step]) (bareListing session.steps.steps) := by
  obtain ⟨newcomers, admitted, steps, inserted, rfl⟩ := add_eq_ok accepted
  obtain ⟨fresh, ownIds, _, ownKeys⟩ := (newcomerConflict?_eq_none_iff ..).mp newcomers
  refine {
    listedBefore := .rfl
    listedAfter := StepTree.insert?_perm inserted
    distinctIds := ?_
    distinctKeys := by rwa [bareListing_declaredKeys]
    free := ?_
    registered := ?_
    released := by simp
    untouched := ?_
    inherited := ?_
    unshadowed := register_shadows sound.unshadowed _
  }
  · rw [List.map_append, List.nodup_append]
    refine ⟨by rwa [bareListing_ids], sound.distinctIds, ?_⟩
    intro id new other old same
    subst same
    rw [bareListing_ids] at new old
    obtain ⟨newcomer, listed, rfl⟩ := List.mem_map.mp new
    obtain ⟨present, inTree, same⟩ := List.mem_map.mp old
    have absent := (fresh newcomer listed).1
    rw [StepTree.contains, StepTree.find?, StepTree.toList_eq, Option.isSome_eq_false_iff,
      Option.isNone_iff_eq_none, List.find?_eq_none] at absent
    exact absent present inTree (by simpa using same)
  · intro bare member key binding declares bound
    obtain ⟨newcomer, listed, rfl⟩ := List.mem_map.mp member
    exact sound.free_of_admitted (admitted newcomer listed) declares bound
  · intro bare member name declared declares
    obtain ⟨newcomer, listed, rfl⟩ := List.mem_map.mp member
    exact find?_register_of_mem sound.unshadowed ownKeys listed
      (newcomer.bare_declaration? ▸ declares)
  · intro key undeclared
    rw [List.nil_append, bareListing_declaredKeys] at undeclared
    exact find?_register_of_not_mem sound.unshadowed undeclared
  · intro key binding undeclared bound
    rw [bareListing_declaredKeys] at undeclared
    rwa [find?_register_of_not_mem sound.unshadowed undeclared] at bound

/-- Deleting the names that some steps of the tree declare replaces them by nothing. -/
theorem Replaces.of_deleteAll {before after : EditorSession} {taken : List Step}
    (sound : before.Sound)
    (steps
      : (bareListing before.steps.steps).Perm
          (bareListing taken ++ bareListing after.steps.steps))
    (environment
      : after.environment
        = (before.environment.deleteAll ((listingOf taken).filterMap Step.declaredName?)).2)
    : Replaces before after (bareListing taken) [] (bareListing after.steps.steps) where
  listedBefore := steps
  listedAfter := .rfl
  distinctIds :=
    ((steps.map Step.id).nodup_iff.mp sound.distinctIds).sublist
      ((List.sublist_append_right _ _).map _)
  distinctKeys := .nil
  free := by simp
  registered := by simp
  released := by
    intro step member key binding declares _ _ _
    rw [environment, find?_deleteAll_declared, ← bareListing_declaredKeys,
      if_pos (List.mem_filterMap.mpr ⟨step, member, declares⟩)]
  untouched := by
    intro key undeclared
    rw [List.append_nil, bareListing_declaredKeys] at undeclared
    rw [environment, find?_deleteAll_declared, if_neg undeclared]
  inherited := by
    intro key binding _ bound
    rw [environment, find?_deleteAll_declared, Option.ite_none_left_eq_some] at bound
    exact bound.2
  unshadowed := by rw [environment, deleteAll_shadows, sound.unshadowed]

theorem Sound.distinctIds_toList {session : EditorSession} (sound : session.Sound)
    : (session.steps.toList.map Step.id).Nodup := by
  rw [StepTree.toList_eq, ← bareListing_ids]
  exact sound.distinctIds

/-- Where ids are unique, a removal takes a step out of the tree and the names that it and the steps
within it declare out of the variables.
-/
theorem remove_eq_deleteAll {session after : EditorSession} {id : StepId} {taken : Step}
    (distinct : (session.steps.toList.map Step.id).Nodup)
    (accepted : session.remove id = .ok (taken, after))
    : TakenOut id session.steps.steps taken after.steps.steps
      ∧ after.environment
        = (session.environment.deleteAll
            ((listingOf [taken]).filterMap Step.declaredName?)).2 := by
  obtain ⟨steps, removal, rfl⟩ := remove_eq_ok accepted
  have out := StepTree.remove?_takenOut removal
  -- the variables go by the first step with the id, the tree by the topmost one
  have found : session.steps.find? id = some taken :=
    out.own ▸ StepTree.find?_of_mem distinct (StepTree.toList_eq _ ▸ out.listed)
  refine ⟨out, ?_⟩
  simp only [deleteDeclared, found, walk_eq_listingOf]

theorem remove_replaces {session after : EditorSession} {id : StepId} {taken : Step}
    (sound : session.Sound) (accepted : session.remove id = .ok (taken, after))
    : Replaces session after (bareListing [taken]) [] (bareListing after.steps.steps) := by
  obtain ⟨out, environment⟩ := remove_eq_deleteAll sound.distinctIds_toList accepted
  exact .of_deleteAll sound out.perm environment

theorem clear_replaces {session after : EditorSession} {container : Option StepId}
    {taken : List Step} (sound : session.Sound)
    (accepted : session.clear container = .ok (taken, after))
    : Replaces session after (bareListing taken) [] (bareListing after.steps.steps) := by
  obtain ⟨steps, cleared, rfl⟩ := clear_eq_ok accepted
  exact .of_deleteAll sound (StepTree.clear?_perm cleared) rfl

/-- The steps that an edit drops: all below the old step, unless its version takes them over. -/
def droppedBy (old step : Step) : List Step :=
  if old.sameContainer step then [] else old.body?.getD []

/-- A version is listed with what it takes over; nothing else changes its place. -/
theorem bareListing_versionOf (old step : Step)
    : (bareListing [old]).Perm (old.bare :: bareListing (droppedBy old step)
        ++ bareListing ((versionOf old step).body?.getD []))
      ∧ bareListing [versionOf old step]
        = (versionOf old step).bare :: bareListing ((versionOf old step).body?.getD []) := by
  constructor
  · rw [bareListing_cons, bareListing_nil, List.append_nil]
    cases same : old.sameContainer step with
    | true =>
        cases old <;> cases step <;> simp_all [Step.sameContainer, droppedBy, versionOf,
          Step.withId, Step.withBody, Step.body?]
    | false =>
        cases step <;> simp [same, droppedBy, versionOf, Step.withId, Step.withBody, Step.body?]
  · rw [bareListing_cons, bareListing_nil, List.append_nil]

/-- What leaves is part of what is gone, and lacks only an old step whose key is kept. -/
theorem mem_leaving {old step other : Step}
    : other ∈ leaving old step
      ↔ (other = old ∧ (versionOf old step).declaredKey? ≠ old.declaredKey?)
        ∨ other ∈ listingOf (droppedBy old step) := by
  rw [leaving, droppedBy, List.mem_append]
  split <;> split <;> simp_all [listingOf]

/-- In the tree, the version takes the place of the old step and of the steps that it drops. -/
theorem replace?_versionOf_perm {tree steps : StepTree} {old step : Step}
    (found : tree.find? old.id = some old)
    (replaced : tree.replace? old.id (versionOf old step) = some steps)
    : ∃ rest,
        (bareListing tree.steps).Perm ((old.bare :: bareListing (droppedBy old step)) ++ rest)
        ∧ (bareListing steps.steps).Perm ([(versionOf old step).bare] ++ rest) := by
  obtain ⟨first, rest, isFirst, whole, new⟩ := StepTree.replace?_perm replaced
  obtain rfl : old = first := Option.some.inj (found.symm.trans isFirst)
  obtain ⟨oldListing, versionListing⟩ := bareListing_versionOf old step
  refine ⟨bareListing ((versionOf old step).body?.getD []) ++ rest, ?_, ?_⟩
  · rw [← List.append_assoc]
    exact whole.trans (oldListing.append_right _)
  · rw [versionListing] at new
    exact new

/-- What leaves is released: its key loses its binding, unless another step has the variable or the
version declares the key.
-/
theorem find?_release_leaving_owned {environment : Environment}
    (unshadowed : environment.shadows = []) {old step bare : Step}
    (member : bare ∈ old.bare :: bareListing (droppedBy old step)) {key : String}
    (declares : bare.declaredKey? = some key)
    (undeclared : (versionOf old step).declaredKey? ≠ some key) {binding : Variable}
    (bound : environment.bindings.find? key = some binding) (owned : binding.owner = bare.id)
    : (release environment (leaving old step)).bindings.find? key = none := by
  rw [find?_release unshadowed, bound]
  apply Option.filter_some_neg
  simp only [Bool.not_eq_false', List.any_eq_true]
  rcases List.mem_cons.mp member with rfl | dropped
  · rw [Step.bare_declaredKey?] at declares
    refine ⟨old, mem_leaving.mpr (.inl ⟨rfl, ?_⟩), ?_⟩
    · rwa [declares]
    · simp_all [ownsDeclared]
  · obtain ⟨lower, listed, rfl⟩ := List.mem_map.mp dropped
    exact ⟨lower, mem_leaving.mpr (.inr listed), by simp_all [ownsDeclared]⟩

/-- Nothing else is released. -/
theorem find?_release_leaving_of_not_mem {environment : Environment}
    (unshadowed : environment.shadows = []) {old step : Step} {key : String}
    (undeclared
      : key ∉ (old.bare :: bareListing (droppedBy old step)).filterMap Step.declaredKey?)
    : (release environment (leaving old step)).bindings.find? key
      = environment.bindings.find? key := by
  rw [find?_release unshadowed]
  cases bound : environment.bindings.find? key with
  | none => rfl
  | some binding =>
      apply Option.filter_some_pos
      simp only [Bool.not_eq_true', List.any_eq_false]
      intro other leaves owned
      simp only [ownsDeclared, Bool.and_eq_true, beq_iff_eq] at owned
      rw [← Step.bare_declaredKey?] at owned
      apply undeclared
      refine List.mem_filterMap.mpr ⟨other.bare, ?_, owned.1⟩
      rcases mem_leaving.mp leaves with ⟨rfl, _⟩ | dropped
      · exact List.mem_cons_self
      · exact List.mem_cons_of_mem _ (List.mem_map_of_mem dropped)

/-- An edit replaces the old step by its version, and what the version does not take over by
nothing.
-/
theorem edit_replaces {session after : EditorSession} {id : StepId} {step : Step}
    (sound : session.Sound) (accepted : session.edit id step = .ok after)
    : ∃ old rest,
        session.steps.find? id = some old
        ∧ Replaces session after (old.bare :: bareListing (droppedBy old step))
            [(versionOf old step).bare] rest := by
  obtain ⟨old, steps, found, admitted, replaced, rfl⟩ := edit_eq_ok accepted
  obtain rfl : old.id = id := by simpa using List.find?_some found
  obtain ⟨rest, listedBefore, listedAfter⟩ := replace?_versionOf_perm found replaced
  have unshadowed := (release_shadows session.environment (leaving old step)).trans sound.unshadowed
  -- the new step is the bare version, but the version is registered as it is
  have alone (key : String)
      (undeclared : key ∉ [(versionOf old step).bare].filterMap Step.declaredKey?)
      : (versionOf old step).declaredKey? ≠ some key
        ∧ key ∉ [versionOf old step].filterMap Step.declaredKey? := by
    simp_all
  refine ⟨old, rest, found, {
    listedBefore := listedBefore
    listedAfter := listedAfter
    distinctIds := ?_
    distinctKeys := ?_
    free := ?_
    registered := ?_
    released := ?_
    untouched := ?_
    inherited := ?_
    unshadowed := register_shadows unshadowed _
  }⟩
  · have ids := (listedBefore.map Step.id).nodup_iff.mp sound.distinctIds
    simp only [List.cons_append, List.map_cons, Step.bare_id, List.nil_append, versionOf_id]
      at ids ⊢
    exact ids.sublist (.cons_cons _ ((List.sublist_append_right _ _).map _))
  · cases declared : (versionOf old step).declaredKey? <;> simp [declared]
  · intro bare member key binding declares bound
    obtain rfl := List.mem_singleton.mp member
    exact sound.free_of_admitted admitted declares bound
  · intro bare member name declared declares
    obtain rfl := List.mem_singleton.mp member
    refine find?_register_of_mem unshadowed ?_ (List.mem_singleton_self _)
      (Step.bare_declaration? _ ▸ declares)
    cases key : (versionOf old step).declaredKey? <;> simp [key]
  · intro bare member key binding declares undeclared bound owned
    obtain ⟨notNamed, undeclared⟩ := alone key undeclared
    rw [find?_register_of_not_mem unshadowed undeclared]
    exact find?_release_leaving_owned sound.unshadowed member declares notNamed bound owned
  · intro key undeclared
    rw [List.filterMap_append, List.mem_append, not_or] at undeclared
    rw [find?_register_of_not_mem unshadowed (alone key undeclared.2).2]
    exact find?_release_leaving_of_not_mem sound.unshadowed undeclared.1
  · intro key binding undeclared bound
    rw [find?_register_of_not_mem unshadowed (alone key undeclared).2,
      find?_release sound.unshadowed] at bound
    exact (Option.filter_eq_some_iff.mp bound).1

end EditorSession

end DesktopAutomation
