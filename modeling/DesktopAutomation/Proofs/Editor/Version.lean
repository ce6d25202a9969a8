import DesktopAutomation.Proofs.Editor.Replacement
import DesktopAutomation.Proofs.NameMap
import DesktopAutomation.Proofs.Tree.Nesting

/-! What an edit does to a session, told by the step that is there before and the one that is given.
The tree changes in the place of the step and below it; of the variables, those change that the
former step or a dropped one declared and owned, and those that the version declares.
-/

namespace DesktopAutomation.EditorSession
open Environment

-----------------------------------------------------------------------------------------
-- The tree
-----------------------------------------------------------------------------------------

/-- One tree has a version of a step in the place of the step with an id. It keeps the id, and the
body if both run it in the same way; nested steps that are given are ignored. All that is not below
keeps its place, all that is not on the path to the step stays as it is, and the steps below stay
exactly if the body does.
-/
structure PutsVersion (before after : StepTree) (id : StepId) (old step : Step) : Prop where
  present : before.find? id = some old
  version
    : after.find? id
      = some ((step.withId id).withBody
          (if old.sameContainer step then old.body?.getD [] else []))
  places
    : ∀ other,
        ¬before.Holds id other
        → after.path? other = before.path? other
          ∧ after.positionPath other = before.positionPath other
  others
    : ∀ other,
        other ≠ id
        → ¬before.Holds id other
        → ¬before.Holds other id
        → after.find? other = before.find? other
  carried
    : old.sameContainer step = true
      → ∀ inner,
          before.Holds id inner
          → after.Holds id inner
            ∧ after.find? inner = before.find? inner
            ∧ after.path? inner = before.path? inner
  dropped
    : old.sameContainer step = false
      → ∀ inner, before.Holds id inner → after.contains inner = false

theorem versionOf_body (old step : Step)
    : (versionOf old step).body?.getD []
      = if old.sameContainer step then old.body?.getD [] else [] := by
  cases step with
  | action id act => cases old <;> rfl
  | statement id stmt body => rfl

/-- The version takes the place of the old step, with fewer ids. -/
theorem replace?_exchange {tree after : StepTree} {old step : Step}
    (found : tree.find? old.id = some old)
    (replaced : tree.replace? old.id (versionOf old step) = some after)
    : Exchange old (versionOf old step) tree.steps after.steps := by
  rw [StepTree.replace?, if_pos (versionOf_id old step)] at replaced
  obtain ⟨edited, changed, rfl⟩ := Option.map_eq_some_iff.mp replaced
  obtain ⟨first, isFirst, exchange⟩ := editFirst?_exchange changed
  rw [StepTree.find?, StepTree.toList_eq] at found
  obtain rfl := Option.some.inj (found.symm.trans isFirst)
  exact exchange

/-- The ids of the steps that are dropped go, and no id comes. -/
theorem replace?_ids {tree after : StepTree} {old step : Step}
    (found : tree.find? old.id = some old)
    (replaced : tree.replace? old.id (versionOf old step) = some after)
    : ∃ others,
        (tree.toList.map Step.id).Perm
            (old.id :: ((listingOf (droppedBy old step)).map Step.id ++ others))
        ∧ (after.toList.map Step.id).Perm (old.id :: others) := by
  obtain ⟨rest, listedBefore, listedAfter⟩ := replace?_versionOf_perm found replaced
  refine ⟨rest.map Step.id, ?_, ?_⟩
  · rw [StepTree.toList_eq, ← bareListing_ids, ← bareListing_ids]
    simpa using listedBefore.map Step.id
  · rw [StepTree.toList_eq, ← bareListing_ids]
    simpa using listedAfter.map Step.id

/-- A search below a step that holds no such id finds nothing, and nothing is found below a version
that takes the body over or goes without one.
-/
theorem sameBelow_versionOf {old : Step} (step : Step) {other : StepId}
    (stays : old.sameContainer step = true ∨ other ∉ old.idsWithin)
    : (listingOf ((versionOf old step).body?.getD [])).find? (·.id == other)
          = (listingOf (old.body?.getD [])).find? (·.id == other)
      ∧ pathTo? other 0 ((versionOf old step).body?.getD [])
        = pathTo? other 0 (old.body?.getD []) := by
  rw [versionOf_body]
  cases same : old.sameContainer step with
  | true => exact ⟨rfl, rfl⟩
  | false =>
      have absent : (listingOf (old.body?.getD [])).find? (·.id == other) = none := by
        rw [List.find?_eq_none]
        intro lower listed isOther
        refine (stays.resolve_left (by simp [same])) (Step.mem_idsWithin.mpr ?_)
        exact List.mem_map.mpr ⟨lower, listed, by simpa using isOther⟩
      have noPath : pathTo? other 0 (old.body?.getD []) = none := by
        rw [← Option.isNone_iff_eq_none, ← Option.isSome_eq_false_iff, pathTo?_isSome, absent]
        rfl
      rw [absent, noPath]
      exact ⟨rfl, rfl⟩

theorem replace?_putsVersion {tree after : StepTree} {old step : Step}
    (distinct : (tree.toList.map Step.id).Nodup) (found : tree.find? old.id = some old)
    (replaced : tree.replace? old.id (versionOf old step) = some after)
    : PutsVersion tree after old.id old step := by
  have exchange := replace?_exchange found replaced
  have holds := StepTree.holds_iff distinct found
  obtain ⟨others, idsBefore, idsAfter⟩ := replace?_ids found replaced
  have apart := idsBefore.nodup_iff.mp distinct
  have distinctAfter : (after.toList.map Step.id).Nodup :=
    idsAfter.nodup_iff.mpr (apart.sublist (.cons_cons _ (List.sublist_append_right _ _)))
  have listed : versionOf old step ∈ after.toList := by
    rw [StepTree.toList_eq]
    exact exchange.symm.mem_old
  have path {other : StepId} (stays : old.sameContainer step = true ∨ other ∉ old.idsWithin)
      : after.path? other = tree.path? other :=
    exchange.pathTo?_eq (versionOf_id old step) (sameBelow_versionOf step stays).2 0
  refine {
    present := found
    version := ?_
    places := ?_
    others := ?_
    carried := ?_
    dropped := ?_
  }
  · have version := StepTree.find?_of_mem distinctAfter listed
    rwa [versionOf_id] at version
  · intro other notBelow
    have same := path (.inr (mt (holds other).mpr notBelow))
    exact ⟨same, by rw [StepTree.positionPath, StepTree.positionPath, same]⟩
  · intro other differs notBelow notAbove
    have below := sameBelow_versionOf step (.inr (mt (holds other).mpr notBelow))
    rw [StepTree.find?, StepTree.find?, StepTree.toList_eq, StepTree.toList_eq]
    refine exchange.find?_eq (versionOf_id old step) differs below.1 ?_
    intro outer member isOther within
    rw [← StepTree.toList_eq] at member
    exact notAbove ⟨outer, member, isOther, within⟩
  · intro same inner below
    have within := (holds inner).mp below
    obtain ⟨lower, inBody, rfl⟩ := List.mem_map.mp (Step.mem_idsWithin.mp within)
    have bodies : (versionOf old step).body?.getD [] = old.body?.getD [] := by
      rw [versionOf_body, if_pos same]
    have before : lower ∈ tree.toList := by
      rw [StepTree.toList_eq]
      exact (body_sublist exchange.mem_old).subset inBody
    have behind : lower ∈ after.toList := by
      rw [StepTree.toList_eq] at listed ⊢
      exact (body_sublist listed).subset (bodies ▸ inBody)
    refine ⟨⟨versionOf old step, listed, versionOf_id old step, ?_⟩, ?_, path (.inl same)⟩
    · rwa [Step.idsWithin, bodies]
    · rw [StepTree.find?_of_mem distinctAfter behind, StepTree.find?_of_mem distinct before]
  · intro differs inner below
    have gone : inner ∈ (listingOf (droppedBy old step)).map Step.id := by
      rw [droppedBy, differs]
      exact Step.mem_idsWithin.mp ((holds inner).mp below)
    rw [← Bool.not_eq_true, StepTree.contains_iff, idsAfter.mem_iff]
    rw [List.nodup_cons, List.mem_append, not_or, List.nodup_append] at apart
    obtain ⟨⟨notOld, -⟩, -, -, disjoint⟩ := apart
    intro stays
    rcases List.mem_cons.mp stays with rfl | stays
    · exact notOld gone
    · exact disjoint inner gone inner stays rfl

-----------------------------------------------------------------------------------------
-- The variables
-----------------------------------------------------------------------------------------

/-- Variables change for a version that takes the place of some steps. A variable that one of them
declared and owned goes, unless the version declares its name; what the version declares is bound;
and every other variable is left alone.
-/
structure ReplacesVariables (before after : Environment) (gone : List Step) (version : Step)
    : Prop where
  released
    : ∀ former ∈ gone, ∀ key binding,
        former.declaredKey? = some key
        → before.bindings.find? key = some binding
        → binding.owner = former.id
        → version.declaredKey? ≠ some key
        → after.bindings.find? key = none
  bound
    : ∀ name declared,
        version.declaration? = some (name, declared)
        → after.bindings.find? (keyOf name) = some declared
  untouched
    : ∀ key,
        version.declaredKey? ≠ some key
        → (∀ former ∈ gone, ∀ binding,
            former.declaredKey? = some key
            → before.bindings.find? key = some binding
            → binding.owner ≠ former.id)
        → after.bindings.find? key = before.bindings.find? key

/-- Where the version does not declare a key, the variable goes exactly if a step that leaves
declared and owned it.
-/
theorem find?_register_release {environment : Environment}
    (unshadowed : environment.shadows = []) {old step : Step} {key : String}
    (undeclared : (versionOf old step).declaredKey? ≠ some key)
    : (register (release environment (leaving old step)) [versionOf old step]).bindings.find? key
      = (environment.bindings.find? key).filter fun binding =>
          !(leaving old step).any (ownsDeclared key binding) := by
  have released := (release_shadows environment (leaving old step)).trans unshadowed
  rw [find?_register_of_not_mem released, find?_release unshadowed]
  intro declares
  obtain ⟨version, member, declares⟩ := List.mem_filterMap.mp declares
  obtain rfl := List.mem_singleton.mp member
  exact undeclared declares

/-- The variables of a version that takes the place of an old step, once that and what it drops are
released.
-/
theorem replacesVariables_versionOf {environment : Environment}
    (unshadowed : environment.shadows = []) (old step : Step)
    : ReplacesVariables environment
        (register (release environment (leaving old step)) [versionOf old step])
        (old :: walk (droppedBy old step)) (versionOf old step) where
  released := by
    intro former gone key binding declares found owned undeclared
    rw [find?_register_release unshadowed undeclared, found]
    apply Option.filter_some_neg
    have leaves : former ∈ leaving old step := by
      rw [mem_leaving, ← walk_eq_listingOf]
      rcases List.mem_cons.mp gone with rfl | dropped
      · exact .inl ⟨rfl, by rwa [declares]⟩
      · exact .inr dropped
    have owns : ownsDeclared key binding former = true := by simp [ownsDeclared, declares, owned]
    simpa using ⟨former, leaves, owns⟩
  bound := by
    intro name declared declares
    have released := (release_shadows environment (leaving old step)).trans unshadowed
    refine find?_register_of_mem released ?_ (List.mem_singleton_self _) declares
    rw [List.filterMap_cons_some (Step.declaredKey?_of_declaration? declares)]
    exact List.nodup_singleton _
  untouched := by
    intro key undeclared unowned
    rw [find?_register_release unshadowed undeclared]
    cases found : environment.bindings.find? key with
    | none => rfl
    | some binding =>
        apply Option.filter_some_pos
        simp only [Bool.not_eq_true', List.any_eq_false]
        intro former leaves owns
        simp only [ownsDeclared, Bool.and_eq_true, beq_iff_eq] at owns
        refine unowned former ?_ binding owns.1 found owns.2
        rw [walk_eq_listingOf]
        rcases mem_leaving.mp leaves with ⟨rfl, -⟩ | dropped
        · exact List.mem_cons_self
        · exact List.mem_cons_of_mem _ dropped

-----------------------------------------------------------------------------------------
-- The session
-----------------------------------------------------------------------------------------

/-- Every edit that a session without repeated ids accepts puts a version of the given step in the
place of the one with the id, and replaces variables accordingly. Shadows come and go within runs;
no session has any, as `performAll_sound` shows.
-/
theorem edit_putsVersion {session after : EditorSession} {id : StepId} {step : Step}
    (distinct : (session.steps.toList.map Step.id).Nodup)
    (accepted : session.edit id step = .ok after)
    : ∃ old version,
        PutsVersion session.steps after.steps id old step
        ∧ after.steps.find? id = some version
        ∧ (session.environment.shadows = []
          → after.environment.shadows = []
            ∧ ReplacesVariables session.environment after.environment
                (old :: walk (if old.sameContainer step then [] else old.body?.getD []))
                version) := by
  obtain ⟨old, steps, found, -, replaced, rfl⟩ := edit_eq_ok accepted
  obtain rfl : old.id = id := by simpa using List.find?_some found
  have puts := replace?_putsVersion distinct found replaced
  refine ⟨old, versionOf old step, puts, puts.version, fun unshadowed => ⟨?_, ?_⟩⟩
  · exact register_shadows ((release_shadows ..).trans unshadowed) _
  · exact replacesVariables_versionOf unshadowed old step

/-- A cycle becomes a conditional: it loses its body and the variables of its own and of the body,
but one that belongs to a step elsewhere.
-/
theorem edit_putsVersion_otherKind
    : let condition : Condition := ⟨.literal "a", .equal, .literal "a"⟩
      let former : Step :=
        .statement ⟨2⟩ (.cycle "rows" "Row")
          [.action ⟨3⟩ (.setVariable "X" "x"),
            .statement ⟨4⟩ (.conditional condition) [.action ⟨5⟩ (.setVariable "Y" "y")]]
      let last : Step := .statement ⟨6⟩ (.cycle "rows" "item") [.action ⟨7⟩ (.sleep 7)]
      let session : EditorSession := {
        steps := ⟨[.action ⟨1⟩ (.setVariable "K" "k"), former, last]⟩
        environment := ⟨.ofList [("x", .ofText ⟨3⟩ "x"), ("y", .ofText ⟨1⟩ "y")], []⟩
        createdAt := none
        device := .blank .standard
      }
      let given : Step := .statement ⟨9⟩ (.conditional condition) [.action ⟨8⟩ (.sleep 8)]
      (session.steps.toList.map Step.id).Nodup
      ∧ ∃ after,
          session.edit ⟨2⟩ given = .ok after
          ∧ after.steps.find? ⟨2⟩ = some (.statement ⟨2⟩ (.conditional condition) [])
          ∧ after.steps.contains ⟨5⟩ = false
          ∧ after.steps.path? ⟨7⟩ = some [2, 0]
          ∧ after.steps.find? ⟨6⟩ = some last
          ∧ after.environment.bindings.find? "x" = none
          ∧ after.environment.bindings.find? "y" = some (.ofText ⟨1⟩ "y") := by
  intro condition former last session given
  have distinct : (session.steps.toList.map Step.id).Nodup := by decide +kernel
  have isFormer : session.steps.find? ⟨2⟩ = some former := by decide +kernel
  have isLast : session.steps.find? ⟨6⟩ = some last := by decide +kernel
  have below := StepTree.holds_iff distinct isFormer
  have belowLast := StepTree.holds_iff distinct isLast
  refine ⟨distinct, ?_⟩
  have succeeds : (session.edit ⟨2⟩ given).toOption.isSome = true := by decide +kernel
  cases outcome : session.edit ⟨2⟩ given with
  | error refusal => simp [outcome, Except.toOption] at succeeds
  | ok after =>
      obtain ⟨old, version, puts, isVersion, replaces⟩ := edit_putsVersion distinct outcome
      obtain ⟨-, replaces⟩ := replaces rfl
      obtain rfl := Option.some.inj (isFormer.symm.trans puts.present)
      obtain rfl := Option.some.inj (puts.version.symm.trans isVersion)
      refine ⟨after, rfl, isVersion, ?_, ?_, ?_, ?_, ?_⟩
      · exact puts.dropped rfl ⟨5⟩ ((below ⟨5⟩).mpr (by decide +kernel))
      · rw [(puts.places ⟨7⟩ (mt (below ⟨7⟩).mp (by decide +kernel))).1]
        decide +kernel
      · rw [puts.others ⟨6⟩ (by decide) (mt (below ⟨6⟩).mp (by decide +kernel))
          (mt (belowLast ⟨2⟩).mp (by decide +kernel))]
        exact isLast
      · exact replaces.released (.action ⟨3⟩ (.setVariable "X" "x")) (by decide +kernel) "x"
          (.ofText ⟨3⟩ "x") (by decide +kernel) (NameMap.find?_ofList ..) rfl (by decide +kernel)
      · have bound : session.environment.bindings.find? "y" = some (.ofText ⟨1⟩ "y") :=
          NameMap.find?_ofList ..
        rw [← bound]
        refine replaces.untouched "y" (by decide +kernel) ?_
        intro other gone binding declares found owned
        obtain rfl := Option.some.inj (bound.symm.trans found)
        have unowned
            : ∀ other ∈ former :: walk [.action ⟨3⟩ (.setVariable "X" "x"),
                .statement ⟨4⟩ (.conditional condition) [.action ⟨5⟩ (.setVariable "Y" "y")]],
                other.declaredKey? = some "y" → ⟨1⟩ ≠ other.id := by
          decide +kernel
        exact unowned other gone declares owned

end DesktopAutomation.EditorSession
