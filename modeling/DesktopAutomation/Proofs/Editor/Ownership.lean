import DesktopAutomation.Proofs.Editor.Replacement
import DesktopAutomation.Document.Reading

/-! The variables of a session and the declarations of its steps.
They correspond in one of two senses: a bound variable is the declared one itself, as in sessions
that started empty, or it only belongs to the step that declares its name, as documents may have
it. Both are kept by one argument about replaced steps.
-/

namespace DesktopAutomation.EditorSession

/-- Every declared key is bound to a variable that agrees with the step that declares it, and every
bound variable agrees with a step that declares its key.
-/
structure Corresponds (agrees : Step → Variable → Prop) (session : EditorSession) : Prop where
  bound
    : ∀ step ∈ session.steps.toList, ∀ key,
        step.declaredKey? = some key
        → ∃ binding,
            session.environment.bindings.find? key = some binding ∧ agrees step binding
  declared
    : ∀ key binding,
        session.environment.bindings.find? key = some binding
        → ∃ step ∈ session.steps.toList,
            step.declaredKey? = some key ∧ agrees step binding

/-- The variable is what the step declares. -/
def Declares (step : Step) (binding : Variable) : Prop :=
  ∃ name, step.declaration? = some (name, binding)

/-- The variable belongs to the step. -/
def Owns (step : Step) (binding : Variable) : Prop := binding.owner = step.id

/-- A sense in which variables and declaring steps may agree: it does not depend on the steps
within a step, a declared variable agrees, and one that agrees belongs to the step.
-/
structure Agreement (agrees : Step → Variable → Prop) : Prop where
  bare : ∀ step binding, agrees step.bare binding ↔ agrees step binding
  fresh
    : ∀ step name binding, step.declaration? = some (name, binding) → agrees step binding
  owner : ∀ step binding, agrees step binding → binding.owner = step.id

/-- A variable may agree with a step by being what the step declares. -/
theorem agreement_declares : Agreement Declares where
  bare step binding := by simp only [Declares, Step.bare_declaration?]
  fresh _ name _ declares := ⟨name, declares⟩
  owner _ _ := fun ⟨_, declares⟩ => Step.owner_of_declaration? declares

/-- A variable may agree with a step by belonging to it. -/
theorem agreement_owns : Agreement Owns where
  bare step binding := by simp only [Owns, Step.bare_id]
  fresh _ _ _ declares := Step.owner_of_declaration? declares
  owner _ _ owned := owned

/-- What does not depend on the steps within a step may be told of bare steps in any order. -/
theorem forall_toList_iff {tree : StepTree} {steps : List Step}
    (listed : (bareListing tree.steps).Perm steps) {holds : Step → Prop}
    (alone : ∀ step, holds step.bare ↔ holds step)
    : (∀ step ∈ tree.toList, holds step) ↔ ∀ step ∈ steps, holds step := by
  simp only [StepTree.toList_eq, ← listed.mem_iff, bareListing, List.forall_mem_map, alone]

/-- What is told by steps alone is told by the listing of bare steps in any order. -/
theorem exists_toList_iff {tree : StepTree} {steps : List Step}
    (listed : (bareListing tree.steps).Perm steps) {holds : Step → Prop}
    (alone : ∀ step, holds step.bare ↔ holds step)
    : (∃ step ∈ tree.toList, holds step) ↔ ∃ step ∈ steps, holds step := by
  simp only [StepTree.toList_eq, ← listed.mem_iff, bareListing, List.mem_map,
    exists_exists_and_eq_and, alone]

/-- The correspondence at one key. -/
structure CorrespondsAt (agrees : Step → Variable → Prop) (key : String) (session : EditorSession)
    : Prop where
  bound
    : ∀ step ∈ session.steps.toList,
        step.declaredKey? = some key
        → ∃ binding,
            session.environment.bindings.find? key = some binding ∧ agrees step binding
  declared
    : ∀ binding,
        session.environment.bindings.find? key = some binding
        → ∃ step ∈ session.steps.toList,
            step.declaredKey? = some key ∧ agrees step binding

/-- Names and variables correspond exactly if they do so at every key. -/
theorem corresponds_iff_forall {agrees : Step → Variable → Prop} {session : EditorSession}
    : session.Corresponds agrees ↔ ∀ key, session.CorrespondsAt agrees key := by
  constructor
  · intro given key
    exact ⟨fun step member => given.bound step member key, given.declared key⟩
  · intro given
    exact ⟨fun step member key => (given key).bound step member, fun key => (given key).declared⟩

/-- A correspondence may be read off the bare steps in any order. -/
theorem Agreement.correspondsAt_iff {agrees : Step → Variable → Prop}
    (agreement : Agreement agrees) {session : EditorSession} {steps : List Step}
    (listed : (bareListing session.steps.steps).Perm steps) (key : String)
    : session.CorrespondsAt agrees key
      ↔ (∀ step ∈ steps,
            step.declaredKey? = some key
            → ∃ binding,
                session.environment.bindings.find? key = some binding ∧ agrees step binding)
        ∧ ∀ binding,
            session.environment.bindings.find? key = some binding
            → ∃ step ∈ steps, step.declaredKey? = some key ∧ agrees step binding := by
  rw [← forall_toList_iff listed fun step => by simp only [Step.bare_declaredKey?, agreement.bare]]
  have declaring (binding : Variable)
      : (∃ step ∈ session.steps.toList, step.declaredKey? = some key ∧ agrees step binding)
        ↔ ∃ step ∈ steps, step.declaredKey? = some key ∧ agrees step binding :=
    exists_toList_iff listed fun step => by simp only [Step.bare_declaredKey?, agreement.bare]
  simp only [← declaring]
  constructor
  · intro given
    exact ⟨given.bound, given.declared⟩
  · rintro ⟨bound, declared⟩
    exact ⟨bound, declared⟩

/-- Among corresponding steps a key has one declaring step only: its variable has one owner. -/
theorem eq_of_declaredKey? {agrees : Step → Variable → Prop} (agreement : Agreement agrees)
    {bound? : Option Variable} {key : String} {steps : List Step}
    (distinct : (steps.map Step.id).Nodup)
    (bound
      : ∀ step ∈ steps,
          step.declaredKey? = some key → ∃ binding, bound? = some binding ∧ agrees step binding)
    {a b : Step} (left : a ∈ steps) (right : b ∈ steps)
    (declaresLeft : a.declaredKey? = some key) (declaresRight : b.declaredKey? = some key)
    : a = b := by
  obtain ⟨binding, found, agreesLeft⟩ := bound a left declaresLeft
  obtain ⟨other, foundAgain, agreesRight⟩ := bound b right declaresRight
  obtain rfl : binding = other := Option.some.inj (found.symm.trans foundAgain)
  refine List.inj_on_of_nodup_map distinct left right ?_
  rw [← agreement.owner a binding agreesLeft, agreement.owner b binding agreesRight]

/-- Corresponding steps declare different keys. -/
theorem Corresponds.distinctKeys {agrees : Step → Variable → Prop} (agreement : Agreement agrees)
    {session : EditorSession} (sound : session.Sound) (given : session.Corresponds agrees)
    : (session.steps.toList.filterMap Step.declaredKey?).Nodup := by
  rw [StepTree.toList_eq, ← bareListing_declaredKeys]
  refine List.pairwise_filterMap.mpr
    ((List.Nodup.of_map _ sound.distinctIds).imp_of_mem fun {a b} left right differ => ?_)
  intro key declaresLeft other declaresRight same
  obtain rfl := same
  have bound :=
    ((agreement.correspondsAt_iff .rfl key).mp (corresponds_iff_forall.mp given key)).1
  exact differ
    (eq_of_declaredKey? agreement sound.distinctIds bound left right declaresLeft declaresRight)

/-- A variable behind a change is one that a new step declares, or it was bound before under a key
that no new step declares.
-/
theorem Replaces.bound_cases {before after : EditorSession} {gone new rest : List Step}
    (change : Replaces before after gone new rest) {key : String} {binding : Variable}
    (found : after.environment.bindings.find? key = some binding)
    : (∃ step ∈ new, ∃ name, step.declaration? = some (name, binding) ∧ keyOf name = key)
      ∨ key ∉ new.filterMap Step.declaredKey?
        ∧ before.environment.bindings.find? key = some binding := by
  by_cases isNew : key ∈ new.filterMap Step.declaredKey?
  · obtain ⟨step, inNew, declares⟩ := List.mem_filterMap.mp isNew
    obtain ⟨name, registered, declaration, rfl⟩ := Step.declaredKey?_eq_some.mp declares
    have same := change.registered step inNew name registered declaration
    obtain rfl : registered = binding := Option.some.inj (same.symm.trans found)
    exact .inl ⟨step, inNew, name, declaration, rfl⟩
  · exact .inr ⟨isNew, change.inherited key binding isNew found⟩

/-- Replacing steps keeps the correspondence at every key at which it holds. If a step that stays
declares the key, it is neither gone nor new, since it has one owner; so its binding stays.
-/
theorem Replaces.correspondsAt {agrees : Step → Variable → Prop} (agreement : Agreement agrees)
    {before after : EditorSession} {gone new rest : List Step}
    (change : Replaces before after gone new rest) (sound : before.Sound) {key : String}
    (given : before.CorrespondsAt agrees key)
    : after.CorrespondsAt agrees key := by
  obtain ⟨bound, declared⟩ := (agreement.correspondsAt_iff change.listedBefore key).mp given
  have distinct := (change.listedBefore.map _).nodup_iff.mp sound.distinctIds
  have stays {step : Step} (member : step ∈ rest) : step ∈ gone ++ rest :=
    List.mem_append_right _ member
  -- what stays bound belongs to a step that stays, so no new step may declare its key
  have newKey {step : Step} (member : step ∈ rest) (declares : step.declaredKey? = some key)
      : key ∉ new.filterMap Step.declaredKey? := by
    intro isNew
    obtain ⟨newcomer, inNew, newDeclares⟩ := List.mem_filterMap.mp isNew
    obtain ⟨binding, found, agrees⟩ := bound step (stays member) declares
    have owner := change.free newcomer inNew key binding newDeclares found
    rw [agreement.owner step binding agrees] at owner
    have distinctAfter := change.distinctIds
    rw [List.map_append, List.nodup_append] at distinctAfter
    exact distinctAfter.2.2 _ (List.mem_map_of_mem inNew) _ (List.mem_map_of_mem member) owner.symm
  have goneKey {step : Step} (member : step ∈ rest) (declares : step.declaredKey? = some key)
      : key ∉ gone.filterMap Step.declaredKey? := by
    intro isGone
    obtain ⟨leaver, inGone, goneDeclares⟩ := List.mem_filterMap.mp isGone
    obtain rfl := eq_of_declaredKey? agreement distinct bound
      (List.mem_append_left _ inGone) (stays member) goneDeclares declares
    rw [List.map_append, List.nodup_append] at distinct
    exact distinct.2.2 _ (List.mem_map_of_mem inGone) _ (List.mem_map_of_mem member) rfl
  rw [agreement.correspondsAt_iff change.listedAfter]
  constructor
  · intro step member declares
    rcases List.mem_append.mp member with isNew | inRest
    · obtain ⟨name, binding, declaration, rfl⟩ := Step.declaredKey?_eq_some.mp declares
      exact ⟨binding, change.registered step isNew name binding declaration,
        agreement.fresh step name binding declaration⟩
    · rw [change.untouched key (by
        rw [List.filterMap_append, List.mem_append, not_or]
        exact ⟨goneKey inRest declares, newKey inRest declares⟩)]
      exact bound step (stays inRest) declares
  · intro binding found
    rcases change.bound_cases found with ⟨step, inNew, name, declaration, rfl⟩ | ⟨isNew, wasBound⟩
    · exact ⟨step, List.mem_append_left _ inNew, Step.declaredKey?_of_declaration? declaration,
        agreement.fresh step name binding declaration⟩
    · obtain ⟨step, member, declares, agrees⟩ := declared binding wasBound
      rcases List.mem_append.mp member with inGone | inRest
      · have unbound := change.released step inGone key binding declares isNew wasBound
          (agreement.owner step binding agrees)
        simp [unbound] at found
      · exact ⟨step, List.mem_append_right _ inRest, declares, agrees⟩

/-- Every change of a sound session replaces some steps by others, possibly none by none. -/
theorem Change.replaces {session after : EditorSession} (change : Change session after)
    (sound : session.Sound)
    : ∃ gone new rest, Replaces session after gone new rest := by
  cases change with
  | refused => exact ⟨_, _, _, .of_perm sound .rfl rfl⟩
  | screen device => exact ⟨_, _, _, .of_perm sound .rfl rfl⟩
  | added accepted => exact ⟨_, _, _, add_replaces sound accepted⟩
  | edited accepted =>
      obtain ⟨_, _, _, change⟩ := edit_replaces sound accepted
      exact ⟨_, _, _, change⟩
  | removed accepted => exact ⟨_, _, _, remove_replaces sound accepted⟩
  | moved accepted =>
      obtain ⟨steps, moved, rfl⟩ := reorder?_eq_some accepted
      exact ⟨_, _, _, .of_perm sound (StepTree.reorder?_perm moved) rfl⟩
  | cleared accepted => exact ⟨_, _, _, clear_replaces sound accepted⟩

/-- A session stays sound whatever is done with it, for every replacement of steps keeps it so. -/
theorem performAll_sound {session : EditorSession} (sound : session.Sound)
    (operations : List Operation)
    : (session.performAll operations).Sound := by
  refine performAll_keeps sound ?_ operations
  intro before after sound change
  obtain ⟨gone, new, rest, replaces⟩ := change.replaces sound
  exact replaces.sound

/-- What replacing steps keeps in sound sessions, all operations keep. -/
theorem performAll_replacing {holds : EditorSession → Prop} {session : EditorSession}
    (sound : session.Sound) (initial : holds session)
    (kept
      : ∀ before after gone new rest,
          before.Sound → Replaces before after gone new rest → holds before → holds after)
    (operations : List Operation)
    : holds (session.performAll operations) := by
  have change (before after : EditorSession) (given : before.Sound ∧ holds before)
      (change : Change before after)
      : after.Sound ∧ holds after := by
    obtain ⟨sound, given⟩ := given
    obtain ⟨gone, new, rest, replaces⟩ := change.replaces sound
    exact ⟨replaces.sound, kept before after gone new rest sound replaces given⟩
  exact (performAll_keeps ⟨sound, initial⟩ change operations).2

/-- Where names and variables correspond at a key, they do so whatever is done, for every replacement
of steps keeps that.
-/
theorem performAll_correspondsAt {agrees : Step → Variable → Prop} (agreement : Agreement agrees)
    {session : EditorSession} (sound : session.Sound) {key : String}
    (given : session.CorrespondsAt agrees key) (operations : List Operation)
    : (session.performAll operations).CorrespondsAt agrees key := by
  refine performAll_replacing sound given ?_ operations
  intro before after gone new rest sound replaces given
  exact replaces.correspondsAt agreement sound given

/-- Where names and variables correspond at all keys, they do so whatever is done. -/
theorem performAll_corresponds {agrees : Step → Variable → Prop} (agreement : Agreement agrees)
    {session : EditorSession} (sound : session.Sound) (given : session.Corresponds agrees)
    (operations : List Operation)
    : (session.performAll operations).Corresponds agrees :=
  corresponds_iff_forall.mpr fun key =>
    performAll_correspondsAt agreement sound (corresponds_iff_forall.mp given key) operations

theorem fresh_sound (device : VirtualScreen) : (fresh device).Sound := ⟨.nil, rfl⟩

/-- In an empty session there is nothing that would not correspond. -/
theorem fresh_corresponds (device : VirtualScreen) (agrees : Step → Variable → Prop)
    : (fresh device).Corresponds agrees := by
  constructor
  · intro step member
    rw [fresh, StepTree.toList_eq] at member
    cases member
  · intro key binding found
    simp [fresh, Environment.empty, NameMap.find?_empty] at found

end DesktopAutomation.EditorSession
