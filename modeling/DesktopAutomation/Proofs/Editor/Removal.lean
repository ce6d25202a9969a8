import DesktopAutomation.Proofs.Editor.Consistency

/-! Which variables go when steps are taken out of a session. They are found by the names that these
steps declare; so a variable goes with its owner where names and owners correspond, as they do in
sessions that started empty, while a document may also tie a name to another step.
-/

namespace DesktopAutomation.EditorSession

/-- What is taken out of a session by removing one step or by clearing a place. -/
inductive TakesOut (session : EditorSession) : List Step → EditorSession → Prop
  | removed {id taken after} (accepted : session.remove id = .ok (taken, after))
    : TakesOut session [taken] after
  | cleared {container taken after} (accepted : session.clear container = .ok (taken, after))
    : TakesOut session taken after

/-- The keys that some steps and the steps within them declare. -/
def declaredKeys (steps : List Step) : List String := (walk steps).filterMap Step.declaredKey?

/-- The variable belongs to one of some steps or to a step within them. -/
def OwnedBy (steps : List Step) (binding : Variable) : Prop :=
  binding.owner ∈ (walk steps).map Step.id

instance (steps : List Step) (binding : Variable) : Decidable (OwnedBy steps binding) :=
  inferInstanceAs (Decidable (_ ∈ _))

/-- Exactly the variables go that belong to the steps taken out. -/
def ReleasesOwned (before : EditorSession) (taken : List Step) (after : EditorSession) : Prop :=
  ∀ key,
    after.environment.bindings.find? key
      = (before.environment.bindings.find? key).filter (¬OwnedBy taken ·)

/-- Only variables go whose names the steps taken out declare, and of these all that belong to the
steps taken out.
-/
structure ReleasesDeclared (before : EditorSession) (taken : List Step) (after : EditorSession)
    : Prop where
  inherited
    : ∀ key binding,
        after.environment.bindings.find? key = some binding
        → before.environment.bindings.find? key = some binding
  kept
    : ∀ key,
        key ∉ declaredKeys taken
        → after.environment.bindings.find? key = before.environment.bindings.find? key
  released
    : ∀ key binding,
        key ∈ declaredKeys taken
        → before.environment.bindings.find? key = some binding
        → OwnedBy taken binding
        → after.environment.bindings.find? key = none

/-- The steps taken out make room among the steps of the tree. -/
theorem TakesOut.listed {session after : EditorSession} {taken : List Step}
    (takesOut : session.TakesOut taken after)
    : (bareListing session.steps.steps).Perm
        (bareListing taken ++ bareListing after.steps.steps) := by
  cases takesOut with
  | removed accepted =>
      obtain ⟨steps, removal, rfl⟩ := remove_eq_ok accepted
      exact (StepTree.remove?_takenOut removal).perm
  | cleared accepted =>
      obtain ⟨steps, cleared, rfl⟩ := clear_eq_ok accepted
      exact StepTree.clear?_perm cleared

/-- The names that the steps taken out declare lose their bindings. -/
theorem TakesOut.find? {session after : EditorSession} {taken : List Step}
    (distinct : (session.steps.toList.map Step.id).Nodup)
    (takesOut : session.TakesOut taken after) (key : String)
    : after.environment.bindings.find? key
      = if key ∈ declaredKeys taken then none else session.environment.bindings.find? key := by
  have environment
      : after.environment
        = (session.environment.deleteAll ((listingOf taken).filterMap Step.declaredName?)).2 := by
    cases takesOut with
    | removed accepted => exact (remove_eq_deleteAll distinct accepted).2
    | cleared accepted =>
        obtain ⟨steps, _, rfl⟩ := clear_eq_ok accepted
        rfl
  rw [environment, Environment.find?_deleteAll_declared, declaredKeys, walk_eq_listingOf]

theorem TakesOut.releasesDeclared {session after : EditorSession} {taken : List Step}
    (sound : session.Sound) (takesOut : session.TakesOut taken after)
    : ReleasesDeclared session taken after where
  inherited key binding found := by
    rw [takesOut.find? sound.distinctIds_toList, Option.ite_none_left_eq_some] at found
    exact found.2
  kept key undeclared := by rw [takesOut.find? sound.distinctIds_toList, if_neg undeclared]
  released key binding declared _ _ := by
    rw [takesOut.find? sound.distinctIds_toList, if_pos declared]

/-- At a key at which names and owners correspond, a step taken out declares the key exactly if the
variable belongs to it: the owner is a step of the tree, and it is the only one that declares the
key.
-/
theorem TakesOut.mem_declaredKeys_iff {session after : EditorSession} {taken : List Step}
    (sound : session.Sound) (takesOut : session.TakesOut taken after) {key : String}
    (given : session.CorrespondsAt Owns key) {binding : Variable}
    (found : session.environment.bindings.find? key = some binding)
    : key ∈ declaredKeys taken ↔ OwnedBy taken binding := by
  obtain ⟨bound, declared⟩ := (agreement_owns.correspondsAt_iff takesOut.listed key).mp given
  have distinct := (takesOut.listed.map _).nodup_iff.mp sound.distinctIds
  rw [declaredKeys, OwnedBy, walk_eq_listingOf, ← bareListing_declaredKeys, ← bareListing_ids,
    List.mem_filterMap, List.mem_map]
  constructor
  · rintro ⟨step, member, declares⟩
    obtain ⟨other, same, owns⟩ := bound step (List.mem_append_left _ member) declares
    obtain rfl := Option.some.inj (found.symm.trans same)
    exact ⟨step, member, owns.symm⟩
  · rintro ⟨step, member, own⟩
    obtain ⟨owner, listed, declares, owns⟩ := declared binding found
    have same : step = owner := List.inj_on_of_nodup_map distinct
      (List.mem_append_left _ member) listed (own.trans owns)
    exact ⟨step, member, same ▸ declares⟩

theorem TakesOut.find?_of_correspondsAt {session after : EditorSession} {taken : List Step}
    (sound : session.Sound) (takesOut : session.TakesOut taken after) {key : String}
    (given : session.CorrespondsAt Owns key)
    : after.environment.bindings.find? key
      = (session.environment.bindings.find? key).filter (¬OwnedBy taken ·) := by
  rw [takesOut.find? sound.distinctIds_toList]
  cases found : session.environment.bindings.find? key with
  | none => simp
  | some binding =>
      have goes := takesOut.mem_declaredKeys_iff sound given found
      by_cases owned : OwnedBy taken binding
      · simp [goes.mpr owned, owned, Option.filter_some]
      · simp [mt goes.mp owned, owned, Option.filter_some]

/-- Behind whatever was done with a session that was opened on a document, the names that the steps
taken out declare lose their variables, and no other name does. So what is taken out releases only
variables that it declares, and of these all that belong to it. At every key at which names and
owners correspond in the document, these are exactly the variables that belong to it.
-/
theorem performAll_takesOut (device : VirtualScreen) {text : String} {document : Document}
    (accepted : Document.read text = .ok document) (operations : List Operation)
    {taken : List Step} {after : EditorSession}
    (takesOut : ((ofDocument device document).performAll operations).TakesOut taken after)
    : let before := (ofDocument device document).performAll operations
      (∀ key,
        after.environment.bindings.find? key
          = if key ∈ declaredKeys taken then none else before.environment.bindings.find? key)
      ∧ ReleasesDeclared before taken after
      ∧ ∀ key,
          (ofDocument device document).CorrespondsAt Owns key
          → after.environment.bindings.find? key
            = (before.environment.bindings.find? key).filter (¬OwnedBy taken ·) := by
  intro before
  have opened := ofDocument_sound device accepted
  have sound : before.Sound := performAll_sound opened operations
  refine ⟨takesOut.find? sound.distinctIds_toList, takesOut.releasesDeclared sound,
    fun key given => ?_⟩
  exact takesOut.find?_of_correspondsAt sound
    (performAll_correspondsAt agreement_owns opened given operations)

/-- A document in which a step has the variable of a name that another step declares, and the latter
a variable under a name that no step declares.
-/
def crossed : Document where
  head := ⟨"T", ⟨⟨2023, 11, 5, 9, 30, 0, 0⟩, by decide⟩⟩
  steps :=
    ⟨[.action ⟨1⟩ (.setVariable "x" "a"), .action ⟨2⟩ (.sleep 0),
      .action ⟨3⟩ (.setVariable "z" "c")]⟩
  environment :=
    ⟨.ofList [("x", .ofText ⟨2⟩ "a"), ("y", .ofText ⟨1⟩ "b"), ("z", .ofText ⟨3⟩ "c")], []⟩

theorem read_print_crossed : Document.read crossed.print = .ok crossed := by
  have stored : crossed.environment.Stored := by
    refine ⟨rfl, fun entry member => ?_⟩
    have listed : entry ∈ [("x", Variable.ofText ⟨2⟩ "a"), ("y", .ofText ⟨1⟩ "b"),
        ("z", .ofText ⟨3⟩ "c")] := member
    simp only [List.mem_cons, List.not_mem_nil, or_false] at listed
    rcases listed with rfl | rfl | rfl <;>
      exact ⟨by decide +kernel, VariableValue.stored_text _⟩
  have valid : crossed.Valid := (Document.violation?_eq_none_iff crossed).mp (by decide +kernel)
  refine (Document.read_print_iff stored).mpr ⟨valid, by decide +kernel, ?_⟩
  intro number inside
  exact absurd inside List.not_mem_nil

/-- The first step of this document takes the variable of the second along, which stays in the tree,
and leaves its own variable behind.
-/
theorem not_releasesOwned_crossed
    : let session := ofDocument (.blank .standard) crossed
      let taken : Step := .action ⟨1⟩ (.setVariable "x" "a")
      Document.read crossed.print = .ok crossed
      ∧ ∃ after,
          session.remove ⟨1⟩ = .ok (taken, after)
          ∧ ¬ReleasesOwned session [taken] after
          ∧ after.steps.contains ⟨2⟩ = true
          ∧ (session.environment.bindings.find? "x").map (·.owner) = some ⟨2⟩
          ∧ (after.environment.bindings.find? "x").map (·.owner) = none
          ∧ (after.environment.bindings.find? "y").map (·.owner) = some ⟨1⟩ := by
  intro session taken
  refine ⟨read_print_crossed, ?_⟩
  have outcome
      : (session.remove ⟨1⟩).toOption.map (fun parts =>
          (parts.1, parts.2.steps.contains ⟨2⟩,
            (parts.2.environment.bindings.find? "x").map (·.owner),
            (parts.2.environment.bindings.find? "y").map (·.owner)))
        = some (taken, true, none, some ⟨1⟩) := by
    decide +kernel
  cases removal : session.remove ⟨1⟩ with
  | error refusal => simp [removal, Except.toOption] at outcome
  | ok parts =>
      obtain ⟨removed, after⟩ := parts
      simp only [removal, Except.toOption, Option.map_some, Option.some.injEq, Prod.mk.injEq]
        at outcome
      obtain ⟨rfl, stays, gone, left⟩ := outcome
      refine ⟨after, rfl, fun releases => ?_, stays, by decide +kernel, gone, left⟩
      obtain ⟨binding, found, owner⟩ := Option.map_eq_some_iff.mp left
      have released := releases "y"
      rw [found, eq_comm, Option.filter_eq_some_iff] at released
      have owned : OwnedBy [taken] binding := by
        rw [OwnedBy, owner]
        decide +kernel
      exact absurd owned (by simpa using released.2)

instance (session : EditorSession) (key : String) : Decidable (session.CorrespondsAt Owns key) :=
  decidable_of_iff
    ((∀ step ∈ session.steps.toList,
        step.declaredKey? = some key
        → ∃ binding ∈ session.environment.bindings.find? key, binding.owner = step.id)
      ∧ ∀ binding ∈ session.environment.bindings.find? key,
        ∃ step ∈ session.steps.toList,
          step.declaredKey? = some key ∧ binding.owner = step.id)
    ⟨fun given => ⟨given.1, given.2⟩, fun given => ⟨given.bound, given.declared⟩⟩

/-- In the document above, the third step has its own variable. It is renamed, a step is added, and
the third step is removed with its variable.
-/
theorem performAll_takesOut_crossed
    : let device := VirtualScreen.blank .standard
      let before := (ofDocument device crossed).performAll
        [.edit ⟨3⟩ (.action ⟨0⟩ (.setVariable "Z" "d")),
          .add (.action ⟨4⟩ (.setVariable "k" "e")) none]
      Document.read crossed.print = .ok crossed
      ∧ (ofDocument device crossed).CorrespondsAt Owns "z"
      ∧ ∃ taken after,
          before.TakesOut taken after
          ∧ (∀ key,
            after.environment.bindings.find? key
              = if key ∈ declaredKeys taken then none else before.environment.bindings.find? key)
          ∧ ReleasesDeclared before taken after
          ∧ after.environment.bindings.find? "z"
            = (before.environment.bindings.find? "z").filter (¬OwnedBy taken ·)
          ∧ (before.environment.bindings.find? "z").map (fun binding =>
              decide (OwnedBy taken binding)) = some true := by
  intro device before
  have corresponds : (ofDocument device crossed).CorrespondsAt Owns "z" := by decide +kernel
  have outcome
      : (before.remove ⟨3⟩).toOption.map (fun parts =>
          (before.environment.bindings.find? "z").map fun binding =>
            decide (OwnedBy [parts.1] binding))
        = some (some true) := by
    decide +kernel
  cases removal : before.remove ⟨3⟩ with
  | error refusal => simp [removal, Except.toOption] at outcome
  | ok parts =>
      obtain ⟨removed, after⟩ := parts
      simp only [removal, Except.toOption, Option.map_some, Option.some.injEq] at outcome
      have takesOut : before.TakesOut [removed] after := .removed removal
      obtain ⟨law, releases, exactly⟩ := performAll_takesOut device read_print_crossed _ takesOut
      exact ⟨read_print_crossed, corresponds, [removed], after, takesOut, law, releases,
        exactly "z" corresponds, outcome⟩

end DesktopAutomation.EditorSession
