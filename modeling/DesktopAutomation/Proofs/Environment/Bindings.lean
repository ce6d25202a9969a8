import DesktopAutomation.Editor.Session

/-! What the operations on an environment without shadows do to its look-ups.
Each lemma gives the binding of a key behind an operation by its binding before.
-/

namespace DesktopAutomation

/-- The key of the variable that a step declares. -/
def Step.declaredKey? (step : Step) : Option String := step.declaredName?.map keyOf

/-- A step declares a key exactly if it is that of the name of its declaration. -/
theorem Step.declaredKey?_eq_some {step : Step} {key : String}
    : step.declaredKey? = some key
      ↔ ∃ name declared, step.declaration? = some (name, declared) ∧ keyOf name = key := by
  simp only [declaredKey?, declaredName?, Option.map_map, Option.map_eq_some_iff, Prod.exists,
    Function.comp_apply]

/-- A step declares the key of the name of its declaration. -/
theorem Step.declaredKey?_of_declaration? {step : Step} {name : String} {declared : Variable}
    (declares : step.declaration? = some (name, declared))
    : step.declaredKey? = some (keyOf name) :=
  declaredKey?_eq_some.mpr ⟨name, declared, declares, rfl⟩

theorem Step.declaredKey?_of_none {step : Step} (undeclared : step.declaration? = none)
    : step.declaredKey? = none := by
  rw [declaredKey?, declaredName?, undeclared]
  rfl

namespace Environment

/-- Without shadows, a name has its lasting variable. -/
theorem get?_of_unshadowed {environment : Environment} (unshadowed : environment.shadows = [])
    (name : String)
    : environment.get? name = environment.bindings.find? (keyOf name) := by
  rw [get?, unshadowed, List.lookup_nil, Option.none_or]

/-- Without shadows, a name is bound for lasting. -/
theorem set_of_unshadowed {environment : Environment} (unshadowed : environment.shadows = [])
    (name : String) (binding : Variable)
    : environment.set name binding
      = { environment with bindings := environment.bindings.insert (keyOf name) binding } := by
  rw [set, unshadowed]
  rfl

theorem set_shadows {environment : Environment} (unshadowed : environment.shadows = [])
    (name : String) (binding : Variable)
    : (environment.set name binding).shadows = [] := by
  rw [set_of_unshadowed unshadowed]
  exact unshadowed

/-- Without shadows, binding a name changes the variable of its key alone. -/
theorem find?_set {environment : Environment} (unshadowed : environment.shadows = [])
    (name key : String) (binding : Variable)
    : (environment.set name binding).bindings.find? key
      = if key = keyOf name then some binding else environment.bindings.find? key := by
  rw [set_of_unshadowed unshadowed, NameMap.find?_insert]

theorem deleteAll_cons (environment : Environment) (name : String) (rest : List String)
    : (environment.deleteAll (name :: rest)).2 = ((environment.delete name).deleteAll rest).2 :=
  rfl

/-- Deleting names leaves the shadows as they are, by induction over the names. -/
theorem deleteAll_shadows (environment : Environment) (names : List String)
    : (environment.deleteAll names).2.shadows = environment.shadows := by
  induction names generalizing environment with
  | nil => rfl
  | cons name rest ih => rw [deleteAll_cons, ih, delete]

/-- Deleting names unbinds their keys and no others, by induction over the names. -/
theorem find?_deleteAll (environment : Environment) (names : List String) (key : String)
    : (environment.deleteAll names).2.bindings.find? key
      = if key ∈ names.map keyOf then none else environment.bindings.find? key := by
  induction names generalizing environment with
  | nil => rfl
  | cons name rest ih =>
      rw [deleteAll_cons, ih, delete, NameMap.find?_erase]
      simp only [List.map_cons, List.mem_cons]
      grind

/-- Deleting what steps declare unbinds the keys that they declare. -/
theorem find?_deleteAll_declared (environment : Environment) (steps : List Step) (key : String)
    : (environment.deleteAll (steps.filterMap Step.declaredName?)).2.bindings.find? key
      = if key ∈ steps.filterMap Step.declaredKey? then none
        else environment.bindings.find? key := by
  rw [find?_deleteAll, List.map_filterMap]
  rfl

end Environment

namespace EditorSession
open Environment

/-- A step without a declaration registers nothing. -/
theorem register_cons_none (environment : Environment) {step : Step} (rest : List Step)
    (undeclared : step.declaration? = none)
    : register environment (step :: rest) = register environment rest := by
  rw [register, List.filterMap_cons_none undeclared, ← register]

/-- A step with a declaration binds its name before the rest is registered. -/
theorem register_cons_some (environment : Environment) {step : Step} (rest : List Step)
    {name : String} {binding : Variable} (declares : step.declaration? = some (name, binding))
    : register environment (step :: rest) = register (environment.set name binding) rest := by
  rw [register, List.filterMap_cons_some declares, List.foldl_cons, ← register]

/-- Registering steps adds no shadows, by induction over the steps. -/
theorem register_shadows {environment : Environment} (unshadowed : environment.shadows = [])
    (steps : List Step)
    : (register environment steps).shadows = [] := by
  induction steps generalizing environment with
  | nil => exact unshadowed
  | cons step rest ih =>
      cases declares : step.declaration? with
      | none => exact register_cons_none environment rest declares ▸ ih unshadowed
      | some declared =>
          exact register_cons_some environment rest declares ▸ ih (set_shadows unshadowed ..)

/-- Registering steps leaves all keys alone that none of them declares. -/
theorem find?_register_of_not_mem {environment : Environment}
    (unshadowed : environment.shadows = []) {steps : List Step} {key : String}
    (undeclared : key ∉ steps.filterMap Step.declaredKey?)
    : (register environment steps).bindings.find? key = environment.bindings.find? key := by
  induction steps generalizing environment with
  | nil => rfl
  | cons step rest ih =>
      cases declares : step.declaration? with
      | none =>
          rw [List.filterMap_cons_none (Step.declaredKey?_of_none declares)] at undeclared
          rw [register_cons_none environment rest declares, ih unshadowed undeclared]
      | some declared =>
          obtain ⟨name, binding⟩ := declared
          rw [List.filterMap_cons_some (Step.declaredKey?_of_declaration? declares),
            List.mem_cons, not_or] at undeclared
          rw [register_cons_some environment rest declares,
            ih (set_shadows unshadowed ..) undeclared.2, find?_set unshadowed,
            if_neg undeclared.1]

/-- Steps that declare different keys are all registered: none replaces what another declares. -/
theorem find?_register_of_mem {environment : Environment}
    (unshadowed : environment.shadows = []) {steps : List Step}
    (distinct : (steps.filterMap Step.declaredKey?).Nodup) {step : Step} (member : step ∈ steps)
    {name : String} {declared : Variable} (declares : step.declaration? = some (name, declared))
    : (register environment steps).bindings.find? (keyOf name) = some declared := by
  induction steps generalizing environment with
  | nil => simp at member
  | cons first rest ih =>
      rcases List.mem_cons.mp member with rfl | inRest
      · rw [List.filterMap_cons_some (Step.declaredKey?_of_declaration? declares)] at distinct
        rw [register_cons_some environment rest declares,
          find?_register_of_not_mem (set_shadows unshadowed ..) (List.nodup_cons.mp distinct).1,
          find?_set unshadowed, if_pos rfl]
      · have restDistinct : (rest.filterMap Step.declaredKey?).Nodup :=
          distinct.sublist ((List.sublist_cons_self first rest).filterMap _)
        cases firstDeclares : first.declaration? with
        | none =>
            rw [register_cons_none environment rest firstDeclares]
            exact ih unshadowed restDistinct inRest
        | some other =>
            rw [register_cons_some environment rest firstDeclares]
            exact ih (set_shadows unshadowed ..) restDistinct inRest

/-- Deleting a variable by its owner leaves the shadows as they are. -/
theorem deleteOwned_shadows (owner : StepId) (name : String) (environment : Environment)
    : (deleteOwned owner name environment).shadows = environment.shadows := by
  rw [deleteOwned]
  split <;> rfl

/-- A key loses its binding if the name has it and the owner has the variable. -/
theorem find?_deleteOwned {environment : Environment} (unshadowed : environment.shadows = [])
    (owner : StepId) (name key : String)
    : (deleteOwned owner name environment).bindings.find? key
      = (environment.bindings.find? key).filter fun binding =>
          !(keyOf name == key && binding.owner == owner) := by
  rw [deleteOwned, get?_of_unshadowed unshadowed]
  by_cases same : keyOf name = key
  · subst same
    cases bound : environment.bindings.find? (keyOf name) with
    | none => simp [bound]
    | some binding =>
        by_cases owned : binding.owner = owner
        · simp [owned, delete, NameMap.find?_erase, Option.filter_some]
        · simp [owned, bound, Option.filter_some]
  · have kept : (environment.delete name).bindings.find? key = environment.bindings.find? key := by
      rw [delete, NameMap.find?_erase, if_neg (Ne.symm same)]
    have unfiltered
        : ((environment.bindings.find? key).filter fun binding =>
            !(keyOf name == key && binding.owner == owner)) = environment.bindings.find? key := by
      cases environment.bindings.find? key <;>
        simp [beq_eq_false_iff_ne.mpr same, Option.filter_some]
    rw [unfiltered]
    split
    · exact kept
    · rfl

/-- A step declares a key and owns the variable that is bound to it. -/
def ownsDeclared (key : String) (binding : Variable) (step : Step) : Bool :=
  step.declaredKey? == some key && binding.owner == step.id

/-- Releasing steps leaves the shadows as they are, by induction over the steps. -/
theorem release_shadows (environment : Environment) (steps : List Step)
    : (release environment steps).shadows = environment.shadows := by
  induction steps generalizing environment with
  | nil => rfl
  | cons step rest ih =>
      rw [release, List.foldl_cons]
      refine (ih _).trans ?_
      cases step.declaredName? with
      | none => rfl
      | some name => exact deleteOwned_shadows ..

/-- Releasing steps unbinds exactly the keys that one of them declares and owns. -/
theorem find?_release {environment : Environment} (unshadowed : environment.shadows = [])
    (steps : List Step) (key : String)
    : (release environment steps).bindings.find? key
      = (environment.bindings.find? key).filter fun binding =>
          !steps.any (ownsDeclared key binding) := by
  induction steps generalizing environment with
  | nil =>
      cases bound : environment.bindings.find? key <;> simp [release, bound, Option.filter_some]
  | cons step rest ih =>
      rw [release, List.foldl_cons]
      cases declared : step.declaredName? with
      | none =>
          refine (ih unshadowed).trans ?_
          simp [ownsDeclared, Step.declaredKey?, declared]
      | some name =>
          refine (ih ((deleteOwned_shadows ..).trans unshadowed)).trans ?_
          rw [find?_deleteOwned unshadowed, Option.filter_filter]
          simp [ownsDeclared, Step.declaredKey?, declared, Bool.and_comm]

end EditorSession

end DesktopAutomation
