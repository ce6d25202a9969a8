import DesktopAutomation.Proofs.Environment.Bindings
import DesktopAutomation.Proofs.NameMap
import DesktopAutomation.Proofs.Tree.Accounting

/-! What goes with a step. Deleting what a step and the steps within it declare drops exactly the
lasting bindings of these names, in any case, and lists the keys that were bound, each once, as
they are first declared in the order of a walk.
-/

namespace DesktopAutomation

namespace Environment

/-- The lasting bindings stand under keys. -/
def Folded (environment : Environment) : Prop :=
  ∀ entry ∈ environment.bindings.entries, keyOf entry.1 = entry.1

/-- The place of the first step that declares a key; behind all steps if none does. -/
def firstDeclaring (steps : List Step) (key : String) : Nat :=
  steps.findIdx (·.declaredKey? == some key)

/-- Between the two environments all variables go that some steps declare, and no other ones; the
keys that go are listed.
-/
structure Cascades (steps : List Step) (before : Environment) (dropped : List String)
    (after : Environment)
    : Prop where
  gone
    : ∀ step ∈ steps, ∀ declared,
        step.declaredName? = some declared
        → ∀ name, keyOf name = keyOf declared → after.lasting? name = none
  left
    : before.Folded
      → ∀ entry ∈ after.bindings.entries, ∀ step ∈ steps, ∀ declared,
          step.declaredName? = some declared → keyOf entry.1 ≠ keyOf declared
  kept
    : ∀ key,
        (∀ step ∈ steps, ∀ declared, step.declaredName? = some declared → keyOf declared ≠ key)
        → after.bindings.find? key = before.bindings.find? key
  shadows : after.shadows = before.shadows
  listed
    : ∀ key,
        key ∈ dropped
        ↔ (before.bindings.find? key).isSome = true ∧ after.bindings.find? key = none
  once : dropped.Nodup
  ordered
    : dropped.Pairwise fun key other => firstDeclaring steps key < firstDeclaring steps other

/-- The keys that steps declare, by the names. -/
theorem mem_declaredKeys {steps : List Step} {key : String}
    : key ∈ steps.filterMap Step.declaredKey?
      ↔ ∃ step ∈ steps, ∃ declared, step.declaredName? = some declared ∧ keyOf declared = key := by
  simp only [List.mem_filterMap, Step.declaredKey?, Option.map_eq_some_iff]

theorem deleteAll_cons_fst (environment : Environment) (name : String) (rest : List String)
    : (environment.deleteAll (name :: rest)).1
      = if (environment.bindings.find? (keyOf name)).isSome then
          keyOf name :: ((environment.delete name).deleteAll rest).1
        else
          ((environment.delete name).deleteAll rest).1 :=
  rfl

/-- The keys that are listed are those of the names that are bound, by induction over the names. -/
theorem mem_deleteAll_fst (environment : Environment) (names : List String) (key : String)
    : key ∈ (environment.deleteAll names).1
      ↔ key ∈ names.map keyOf ∧ (environment.bindings.find? key).isSome = true := by
  induction names generalizing environment with
  | nil => simp [deleteAll]
  | cons name rest ih =>
      have behind
          : key ∈ ((environment.delete name).deleteAll rest).1
            ↔ key ∈ rest.map keyOf
              ∧ key ≠ keyOf name
              ∧ (environment.bindings.find? key).isSome = true := by
        rw [ih, delete, NameMap.find?_erase]
        split <;> simp_all
      rw [deleteAll_cons_fst, List.map_cons, List.mem_cons]
      split
      · next bound =>
          rw [List.mem_cons, behind]
          grind
      · next unbound =>
          rw [behind]
          grind

theorem firstDeclaring_cons (step : Step) (rest : List Step) (key : String)
    : firstDeclaring (step :: rest) key
      = if step.declaredKey? = some key then 0 else firstDeclaring rest key + 1 := by
  simp [firstDeclaring, List.findIdx_cons, Bool.cond_eq_ite]

/-- Keys that are ordered by the steps behind one are ordered by all, if it declares none of them. -/
theorem pairwise_firstDeclaring_cons {step : Step} {rest : List Step} {keys : List String}
    (ordered
      : keys.Pairwise fun key other => firstDeclaring rest key < firstDeclaring rest other)
    (others : ∀ key ∈ keys, step.declaredKey? ≠ some key)
    : keys.Pairwise fun key other =>
        firstDeclaring (step :: rest) key < firstDeclaring (step :: rest) other := by
  refine ordered.imp_of_mem fun isKey isOther less => ?_
  rw [firstDeclaring_cons, firstDeclaring_cons, if_neg (others _ isKey),
    if_neg (others _ isOther)]
  exact Nat.succ_lt_succ less

/-- The keys are listed as they are first declared. A key that was listed is not bound any more, so
behind it only keys are listed that its step does not declare; by induction over the steps.
-/
theorem deleteAll_fst_ordered (environment : Environment) (steps : List Step)
    : (environment.deleteAll (steps.filterMap Step.declaredName?)).1.Pairwise fun key other =>
        firstDeclaring steps key < firstDeclaring steps other := by
  induction steps generalizing environment with
  | nil => exact .nil
  | cons step rest ih =>
      cases declares : step.declaredName? with
      | none =>
          rw [List.filterMap_cons_none declares]
          refine pairwise_firstDeclaring_cons (ih environment) fun key _ => ?_
          simp [Step.declaredKey?, declares]
      | some name =>
          have declaredKey : step.declaredKey? = some (keyOf name) := by
            rw [Step.declaredKey?, declares]
            rfl
          have others
              : ∀ key ∈ ((environment.delete name).deleteAll
                    (rest.filterMap Step.declaredName?)).1,
                  step.declaredKey? ≠ some key := by
            intro key isListed isDeclared
            obtain rfl := Option.some.inj (declaredKey.symm.trans isDeclared)
            have bound := ((mem_deleteAll_fst ..).mp isListed).2
            simp [delete, NameMap.find?_erase] at bound
          have behind := pairwise_firstDeclaring_cons (ih (environment.delete name)) others
          rw [List.filterMap_cons_some declares, deleteAll_cons_fst]
          split
          · refine List.pairwise_cons.mpr ⟨fun key isListed => ?_, behind⟩
            rw [firstDeclaring_cons, firstDeclaring_cons, if_pos declaredKey,
              if_neg (others key isListed)]
            exact Nat.succ_pos _
          · exact behind

/-- Deleting what some steps declare drops just that. -/
theorem deleteAll_cascades (environment : Environment) (steps : List Step)
    : Cascades steps environment (environment.deleteAll (steps.filterMap Step.declaredName?)).1
        (environment.deleteAll (steps.filterMap Step.declaredName?)).2 := by
  have ordered := deleteAll_fst_ordered environment steps
  have gone {key : String} (isDeclared : key ∈ steps.filterMap Step.declaredKey?)
      : (environment.deleteAll (steps.filterMap Step.declaredName?)).2.bindings.find? key
        = none := by
    rw [find?_deleteAll_declared, if_pos isDeclared]
  refine ⟨?_, ?_, ?_, deleteAll_shadows .., ?_, ordered.imp fun less => ?_, ordered⟩
  · intro step isStep declared declares name same
    rw [lasting?, same]
    exact gone (mem_declaredKeys.mpr ⟨step, isStep, declared, declares, rfl⟩)
  · intro folded entry isLeft step isStep declared declares same
    have isDeclared : keyOf entry.1 ∈ steps.filterMap Step.declaredKey? :=
      mem_declaredKeys.mpr ⟨step, isStep, declared, declares, same.symm⟩
    have bound := (NameMap.find?_eq_some_iff _ entry.1 entry.2).mpr isLeft
    have before := bound
    rw [find?_deleteAll_declared, Option.ite_none_left_eq_some] at before
    rw [folded entry ((NameMap.find?_eq_some_iff ..).mp before.2)] at isDeclared
    exact before.1 isDeclared
  · intro key undeclared
    rw [find?_deleteAll_declared, if_neg]
    intro isDeclared
    obtain ⟨step, isStep, declared, declares, same⟩ := mem_declaredKeys.mp isDeclared
    exact undeclared step isStep declared declares same
  · intro key
    rw [mem_deleteAll_fst, find?_deleteAll, and_comm]
    refine and_congr_right fun bound => ?_
    simp only [ite_eq_left_iff, Option.isSome_iff_ne_none.mp bound, imp_false, not_not]
  · rintro rfl
    exact Nat.lt_irrefl _ less

/-- Deleting what the step with an id declares changes nothing if there is no such step. Else all
lasting variables go whose names this step and the steps within it declare, and no other ones.
-/
theorem deleteDeclared_cascades (environment : Environment) (tree : StepTree) (id : StepId)
    : (id ∉ (listingOf tree.steps).map Step.id
        → environment.deleteDeclared tree id = ([], environment))
      ∧ (id ∈ (listingOf tree.steps).map Step.id
        → ∃ step,
            tree.find? id = some step
            ∧ Cascades step.listing environment (environment.deleteDeclared tree id).1
                (environment.deleteDeclared tree id).2) := by
  constructor
  · intro absent
    have unfound : tree.find? id = none := by
      rw [StepTree.find?, StepTree.toList_eq, List.find?_eq_none]
      intro step isStep
      have differs : step.id ≠ id := fun same => absent (same ▸ List.mem_map_of_mem isStep)
      simpa using differs
    rw [deleteDeclared, unfound]
  · intro present
    obtain ⟨step, isStep, same⟩ := List.mem_map.mp present
    have isFound : (tree.find? id).isSome = true := by
      rw [StepTree.find?, StepTree.toList_eq, List.find?_isSome]
      exact ⟨step, isStep, by simpa using same⟩
    obtain ⟨found, isFirst⟩ := Option.isSome_iff_exists.mp isFound
    have alone : walk [found] = found.listing := by
      rw [walk_eq_listingOf, listingOf, listingOf, List.append_nil]
    refine ⟨found, isFirst, ?_⟩
    rw [deleteDeclared, isFirst, ← alone]
    exact deleteAll_cascades environment (walk [found])

/-- A cycle with three steps in its body, two of which declare names of other steps in another case.
-/
def renamedTree : StepTree :=
  ⟨[.statement ⟨1⟩ (.cycle "rows" "Row") [
      .action ⟨2⟩ (.parseString "" "row" ";" "cells"),
      .action ⟨3⟩ (.setVariable "CELLS" ""),
      .action ⟨4⟩ (.destructVariable "cells" 0 "row")]]⟩

/-- Variables of the tree, one of them hidden, and a variable that no step declares. -/
def renamedEnvironment : Environment :=
  ((Environment.empty.set "rows" (.ofText ⟨0⟩ "a;b")).set "cells" (.ofTexts ⟨2⟩ [])).set "ROW"
    (.ofText ⟨1⟩ "") |>.shadow "row" (.ofText ⟨1⟩ "a")

/-- Each key is listed once, in the order of the first steps that declare them. -/
theorem deleteDeclared_cascades_renamed
    : (⟨1⟩ : StepId) ∈ (listingOf renamedTree.steps).map Step.id
      ∧ (renamedEnvironment.deleteDeclared renamedTree ⟨1⟩).1 = ["row", "cells"]
      ∧ (∃ step,
          renamedTree.find? ⟨1⟩ = some step
          ∧ Cascades step.listing renamedEnvironment ["row", "cells"]
              (renamedEnvironment.deleteDeclared renamedTree ⟨1⟩).2)
      ∧ (⟨9⟩ : StepId) ∉ (listingOf renamedTree.steps).map Step.id
      ∧ renamedEnvironment.deleteDeclared renamedTree ⟨9⟩ = ([], renamedEnvironment) := by
  have present : (⟨1⟩ : StepId) ∈ (listingOf renamedTree.steps).map Step.id := by decide
  have absent : (⟨9⟩ : StepId) ∉ (listingOf renamedTree.steps).map Step.id := by decide
  have dropped : (renamedEnvironment.deleteDeclared renamedTree ⟨1⟩).1 = ["row", "cells"] := by
    decide +kernel
  obtain ⟨step, isFound, cascades⟩ :=
    (deleteDeclared_cascades renamedEnvironment renamedTree ⟨1⟩).2 present
  rw [dropped] at cascades
  exact ⟨present, dropped, ⟨step, isFound, cascades⟩, absent,
    (deleteDeclared_cascades renamedEnvironment renamedTree ⟨9⟩).1 absent⟩

end Environment

end DesktopAutomation
