import DesktopAutomation.Proofs.Editor.Consistency

/-! Which sessions can be stored so that the text reads back. An edit checks ids, names and the
pointer, but neither how great the integers of a step are nor how deep it lies; the text of a
session reads back exactly if they are within what documents may hold.
-/

namespace DesktopAutomation

/-- A step declares a variable without a value or with a text. -/
theorem Step.plain_of_declaration? {step : Step} {name : String} {declared : Variable}
    (declares : step.declaration? = some (name, declared))
    : declared.value = .null ∨ ∃ content, declared.value = .text content := by
  cases step with
  | action id act =>
      cases act <;> simp_all [declaration?, Action.declaration?]
      all_goals obtain ⟨_, rfl⟩ := declares; simp [Variable.ofText]
  | statement id stmt body =>
      cases stmt <;> simp_all [declaration?, Statement.declaration?]
      obtain ⟨_, rfl⟩ := declares
      simp

namespace EditorSession

/-- The variables are of the kind that documents hold. Each has a safe owner or belongs to a step
that declares it, and the numbers in them are those of the origin.
-/
structure Storable (origin session : EditorSession) : Prop where
  stored : session.environment.Stored
  owned
    : ∀ key binding,
        session.environment.bindings.find? key = some binding
        → binding.owner.value ≤ largestSafe
          ∨ ∃ step ∈ session.steps.toList,
              step.declaredKey? = some key ∧ binding.owner = step.id
  numbers : ∀ number ∈ session.environment.numbers, number ∈ origin.environment.numbers

/-- A change keeps the variables storable: a new one is declared by a step, and one that stays loses
its step only if it goes with it.
-/
theorem Replaces.storable {origin before after : EditorSession} {gone new rest : List Step}
    (change : Replaces before after gone new rest) (given : Storable origin before)
    : Storable origin after where
  stored := by
    refine ⟨change.unshadowed, ?_⟩
    rintro ⟨key, binding⟩ member
    have found := (NameMap.find?_eq_some_iff ..).mpr member
    rcases change.bound_cases found with ⟨step, _, name, declaration, rfl⟩ | ⟨_, wasBound⟩
    · refine ⟨keyOf_keyOf name, ?_⟩
      rcases Step.plain_of_declaration? declaration with empty | ⟨content, text⟩
      · simp only [empty, VariableValue.stored_null]
      · simp only [text, VariableValue.stored_text]
    · exact given.stored.bindings _ ((NameMap.find?_eq_some_iff ..).mp wasBound)
  owned key binding found := by
    have alone (step : Step)
        : step.bare.declaredKey? = some key ∧ binding.owner = step.bare.id
          ↔ step.declaredKey? = some key ∧ binding.owner = step.id := by
      simp only [Step.bare_declaredKey?, Step.bare_id]
    rw [exists_toList_iff change.listedAfter alone]
    rcases change.bound_cases found with ⟨step, isNew, name, declaration, rfl⟩ | ⟨isOld, wasBound⟩
    · exact .inr ⟨step, List.mem_append_left _ isNew,
        Step.declaredKey?_of_declaration? declaration, Step.owner_of_declaration? declaration⟩
    · -- a step that goes takes the variable along, so the owner is among those that stay
      refine (given.owned key binding wasBound).imp_right fun owned => ?_
      obtain ⟨step, member, declares, owner⟩ :=
        (exists_toList_iff change.listedBefore alone).mp owned
      rcases List.mem_append.mp member with isGone | stays
      · have unbound := change.released step isGone key binding declares isOld wasBound owner
        simp [unbound] at found
      · exact ⟨step, List.mem_append_right _ stays, declares, owner⟩
  numbers number inside := by
    obtain ⟨⟨key, binding⟩, member, within⟩ := List.mem_flatMap.mp inside
    have found := (NameMap.find?_eq_some_iff ..).mpr member
    rcases change.bound_cases found with ⟨step, _, name, declaration, rfl⟩ | ⟨_, wasBound⟩
    · rcases Step.plain_of_declaration? declaration with empty | ⟨content, text⟩
      · simp [empty, VariableValue.toJson, Json.numbers] at within
      · simp [text, VariableValue.toJson, Json.numbers] at within
    · refine given.numbers number (List.mem_flatMap.mpr ⟨(key, binding), ?_, within⟩)
      exact (NameMap.find?_eq_some_iff ..).mp wasBound

theorem performAll_storable {origin session : EditorSession} (sound : session.Sound)
    (given : Storable origin session) (operations : List Operation)
    : Storable origin (session.performAll operations) := by
  refine performAll_replacing sound given ?_ operations
  intro before after gone new rest _ replaces given
  exact replaces.storable given

/-- How a session starts: empty, or on a document that was read. -/
inductive Starts : EditorSession → Prop
  | fresh (device : VirtualScreen) : Starts (fresh device)
  | opened {text : String} {document : Document} (device : VirtualScreen)
    (accepted : Document.read text = .ok document)
    : Starts (ofDocument device document)

theorem Starts.sound {session : EditorSession} (starts : session.Starts) : session.Sound := by
  cases starts with
  | fresh device => exact fresh_sound device
  | opened device accepted => exact ofDocument_sound device accepted

theorem Starts.storable {session : EditorSession} (starts : session.Starts)
    : Storable session session := by
  cases starts with
  | fresh device =>
      refine ⟨Environment.stored_empty, fun key binding found => ?_, fun _ inside => inside⟩
      simp [EditorSession.fresh, Environment.empty, NameMap.find?_empty] at found
  | opened device accepted =>
      obtain ⟨decoded, valid⟩ := (Document.read_eq_ok_iff ..).mp accepted
      refine ⟨Document.stored_of_decode? decoded, fun key binding found => .inl ?_,
        fun _ inside => inside⟩
      exact valid.safeOwners _ ((NameMap.find?_eq_some_iff ..).mp found)

/-- Whatever was done with a session, the text of its document reads as the document exactly if the
ids and integers of all steps are safe, it nests no deeper than JSON texts may, and the numbers in
its variables read back. Those numbers are from the document that the session was opened on.
-/
theorem performAll_toDocument_read_iff {session : EditorSession} (starts : session.Starts)
    (operations : List Operation) (title : String) (now : Timestamp)
    : let built := session.performAll operations
      let document := built.toDocument title now
      (Document.read document.print = .ok document
        ↔ (∀ step ∈ built.steps.toList,
              step.id.value ≤ largestSafe ∧ ∀ integer ∈ step.integers, integer.2 ≤ largestSafe)
          ∧ document.toJson.depth ≤ RawJson.depthLimit
          ∧ ∀ number ∈ built.environment.numbers, number.reread? = some number)
      ∧ ∀ number ∈ built.environment.numbers, number ∈ session.environment.numbers := by
  intro built document
  have sound : built.Sound := performAll_sound starts.sound operations
  have storable : Storable session built :=
    performAll_storable starts.sound starts.storable operations
  have valid
      : document.Valid
        ↔ ∀ step ∈ built.steps.toList,
            step.id.value ≤ largestSafe
            ∧ ∀ integer ∈ step.integers, integer.2 ≤ largestSafe := by
    constructor
    · intro valid step member
      exact ⟨valid.safeIds step member, valid.safeIntegers step member⟩
    · intro safe
      refine ⟨sound.distinctIds_toList, fun step member => (safe step member).1,
        fun step member => (safe step member).2, ?_⟩
      rintro ⟨key, binding⟩ member
      have found := (NameMap.find?_eq_some_iff ..).mpr member
      rcases storable.owned key binding found with safeOwner | ⟨step, isStep, _, owner⟩
      · exact safeOwner
      · exact owner ▸ (safe step isStep).1
  refine ⟨?_, storable.numbers⟩
  rw [← valid]
  exact Document.read_print_iff storable.stored

/-- The session of a step with the greatest safe id reads back. A step that is captured behind it
gets the next id, so that the text of the session does not.
-/
theorem performAll_toDocument_read_iff_captured
    : let now : Timestamp := ⟨⟨2024, 2, 29, 12, 0, 0, 0⟩, by decide⟩
      let last : List Operation := [.add (.action ⟨largestSafe⟩ (.sleep 0)) none]
      let stored (operations : List Operation) : Document :=
        ((fresh (.blank .standard)).performAll operations).toDocument "T" now
      Document.read (stored last).print = .ok (stored last)
      ∧ Document.read (stored (last ++ [.addCaptured none])).print
        ≠ .ok (stored (last ++ [.addCaptured none])) := by
  intro now last stored
  have stored_iff (operations : List Operation) :=
    performAll_toDocument_read_iff (.fresh (.blank .standard)) operations "T" now
  constructor
  · refine (stored_iff last).1.mpr ⟨by decide +kernel, by decide +kernel, fun number inside => ?_⟩
    exact absurd ((stored_iff last).2 number inside) List.not_mem_nil
  · intro read
    exact absurd ((stored_iff _).1.mp read).1 (by decide +kernel)

end EditorSession

end DesktopAutomation
