import DesktopAutomation.Proofs.Document.RoundTrip
import DesktopAutomation.Proofs.Editor.Ownership

/-! What every session keeps, whatever is done with it. In a session that started empty the
variables are those that the steps declare; in one that was opened on a document no two steps share
an id, and variables that belong to their declaring steps stay with them.
-/

namespace DesktopAutomation.EditorSession

/-- No two steps share an id or declare names with one key, and the variables are exactly those that
the steps declare.
-/
structure Consistent (session : EditorSession) : Prop where
  distinctIds : (session.steps.toList.map Step.id).Nodup
  distinctKeys : (session.steps.toList.filterMap Step.declaredKey?).Nodup
  bound_iff
    : ∀ key binding,
        session.environment.bindings.find? key = some binding
        ↔ ∃ step ∈ session.steps.toList, ∃ name,
            step.declaration? = some (name, binding) ∧ keyOf name = key
  unshadowed : session.environment.shadows = []

/-- A sound session whose variables are those that its steps declare is consistent: a declared key
is bound to one variable, so to that of any step that declares it.
-/
theorem Corresponds.consistent {session : EditorSession} (given : session.Corresponds Declares)
    (sound : session.Sound)
    : session.Consistent where
  distinctIds := sound.distinctIds_toList
  distinctKeys := given.distinctKeys agreement_declares sound
  bound_iff key binding := by
    constructor
    · intro found
      obtain ⟨step, member, declares, name, declaration⟩ := given.declared key binding found
      have same := Step.declaredKey?_of_declaration? declaration
      exact ⟨step, member, name, declaration, Option.some.inj (same.symm.trans declares)⟩
    · rintro ⟨step, member, name, declaration, rfl⟩
      obtain ⟨bound, found, other, again⟩ :=
        given.bound step member _ (Step.declaredKey?_of_declaration? declaration)
      obtain ⟨-, rfl⟩ := Prod.mk.inj (Option.some.inj (again.symm.trans declaration))
      exact found
  unshadowed := sound.unshadowed

theorem ofDocument_sound (device : VirtualScreen) {text : String} {document : Document}
    (accepted : Document.read text = .ok document)
    : (ofDocument device document).Sound := by
  obtain ⟨decoded, valid⟩ := (Document.read_eq_ok_iff ..).mp accepted
  refine ⟨?_, (Document.stored_of_decode? decoded).unshadowed⟩
  rw [bareListing_ids, ← StepTree.toList_eq]
  exact valid.distinctIds

/-- Whatever is done with a session that started empty, it is consistent. Whatever is done with one
that was opened on a document, no two steps share an id; and if the variables and the steps that
declare them correspond in the document, they still do.
-/
theorem performAll_consistent (device : VirtualScreen) (operations : List Operation)
    : ((fresh device).performAll operations).Consistent
      ∧ ∀ text document,
          Document.read text = .ok document
          → (((ofDocument device document).performAll operations).steps.toList.map Step.id).Nodup
            ∧ ((ofDocument device document).Corresponds Owns
              → ((ofDocument device document).performAll operations).Corresponds Owns) := by
  constructor
  · have given := performAll_corresponds agreement_declares (fresh_sound device)
      (fresh_corresponds device Declares) operations
    exact given.consistent (performAll_sound (fresh_sound device) operations)
  · intro text document accepted
    have sound := ofDocument_sound device accepted
    constructor
    · exact (performAll_sound sound operations).distinctIds_toList
    · intro given
      exact performAll_corresponds agreement_owns sound given operations

instance (session : EditorSession) : Decidable (session.Corresponds Owns) :=
  decidable_of_iff
    ((∀ step ∈ session.steps.toList, ∀ key ∈ step.declaredKey?,
        ∃ binding ∈ session.environment.bindings.find? key, binding.owner = step.id)
      ∧ ∀ entry ∈ session.environment.bindings.entries,
        ∃ step ∈ session.steps.toList,
          step.declaredKey? = some entry.1 ∧ entry.2.owner = step.id)
    (by
      constructor
      · rintro ⟨bound, declared⟩
        refine ⟨bound, fun key binding found => ?_⟩
        exact declared (key, binding) ((NameMap.find?_eq_some_iff ..).mp found)
      · rintro ⟨bound, declared⟩
        refine ⟨bound, fun entry member => ?_⟩
        exact declared entry.1 entry.2 ((NameMap.find?_eq_some_iff ..).mpr member))

/-- A step is renamed and a captured one is added, in a session on a document whose only variable
belongs to the only step.
-/
theorem performAll_consistent_renamed
    : let device := VirtualScreen.blank .standard
      let operations : List Operation :=
        [.edit ⟨1⟩ (.action ⟨0⟩ (.setVariable "M" "y")), .addCaptured none]
      let document : Document := {
        head := ⟨"T", ⟨⟨2024, 2, 29, 12, 0, 0, 0⟩, by decide⟩⟩
        steps := ⟨[.action ⟨1⟩ (.setVariable "N" "x")]⟩
        environment := ⟨.ofList [("n", .ofText ⟨1⟩ "x")], []⟩
      }
      ((fresh device).performAll operations).Consistent
      ∧ Document.read document.print = .ok document
      ∧ (ofDocument device document).Corresponds Owns
      ∧ (((ofDocument device document).performAll operations).steps.toList.map Step.id).Nodup
      ∧ ((ofDocument device document).performAll operations).Corresponds Owns := by
  intro device operations document
  obtain ⟨started, opened⟩ := performAll_consistent device operations
  have stored : document.environment.Stored := by
    refine ⟨rfl, List.forall_mem_singleton.mpr ⟨by decide +kernel, ?_⟩⟩
    exact VariableValue.stored_text "x"
  have valid : document.Valid := (Document.violation?_eq_none_iff document).mp (by decide +kernel)
  have accepted : Document.read document.print = .ok document := by
    refine (Document.read_print_iff stored).mpr ⟨valid, by decide +kernel, ?_⟩
    intro number inside
    exact absurd inside List.not_mem_nil
  have given : (ofDocument device document).Corresponds Owns := by decide +kernel
  obtain ⟨distinct, kept⟩ := opened _ document accepted
  exact ⟨started, accepted, given, distinct, kept given⟩

end DesktopAutomation.EditorSession
