import DesktopAutomation.Environment
import DesktopAutomation.Proofs.Step.RoundTrip
import DesktopAutomation.Proofs.Text.Case
import DesktopAutomation.Proofs.Variable.RoundTrip

/-! The JSON form of an environment reads back if nothing is shadowed and every binding is of the
kind that reading gives: its name is a key, and its value one that JSON names.
-/

namespace DesktopAutomation
open Json

/-- A key is its own key. -/
theorem keyOf_keyOf (name : String) : keyOf (keyOf name) = keyOf name :=
  Text.lowercase_lowercase name

namespace Environment

/-- An environment that a document can hold as it is. -/
structure Stored (environment : Environment) : Prop where
  unshadowed : environment.shadows = []
  bindings
    : ∀ entry ∈ environment.bindings.entries, keyOf entry.1 = entry.1 ∧ entry.2.value.Stored

theorem stored_empty : empty.Stored where
  unshadowed := rfl
  bindings _ member := absurd member List.not_mem_nil

/-- The numbers within the values of the bindings. -/
def numbers (environment : Environment) : List JsonNumber :=
  environment.bindings.entries.flatMap fun entry => entry.2.value.toJson.numbers

/-- Parts are read one by one, and all of them. -/
theorem mapM_eq_some_iff {α β : Type} {read? : α → Option β} {parts : List α} {results : List β}
    : parts.mapM read? = some results ↔ parts.map read? = results.map some := by
  induction parts generalizing results with
  | nil => cases results <;> simp
  | cons part rest ih =>
      simp only [List.mapM_cons, Option.bind_eq_bind, Option.pure_def, Option.bind_eq_some_iff, ih,
        Option.some.injEq, List.map_cons]
      cases results <;> simp

theorem mapM_eq_some_map {α β : Type} {read? : α → Option β} {made : α → β} {parts : List α}
    (all : ∀ part ∈ parts, read? part = some (made part))
    : parts.mapM read? = some (parts.map made) := by
  rw [mapM_eq_some_iff, List.map_map]
  exact List.map_congr_left all

theorem mem_of_mapM {α β : Type} {read? : α → Option β} {parts : List α} {results : List β}
    (read : parts.mapM read? = some results)
    : ∀ result ∈ results, ∃ part ∈ parts, read? part = some result := by
  intro result member
  have mapped := List.mem_map_of_mem (f := some) member
  rwa [← mapM_eq_some_iff.mp read, List.mem_map] at mapped

/-- The variable whose value is the one that changed numbers name. -/
def changed (change : JsonNumber → JsonNumber) (binding : Variable) : Variable :=
  { binding with value := .ofJson (binding.value.toJson.mapNumbers change) }

/-- An environment that is written with changed numbers reads back without shadows, and with the
values that the changed numbers name, if its names are keys.
-/
theorem ofJson?_mapNumbers_of_keyed {environment : Environment}
    (keyed : ∀ entry ∈ environment.bindings.entries, keyOf entry.1 = entry.1)
    {change : JsonNumber → JsonNumber}
    (natural : ∀ word, change (.natural word) = .natural word)
    : ofJson? (environment.toJson.mapNumbers change)
      = some ⟨environment.bindings.map (changed change), []⟩ := by
  obtain ⟨⟨entries, sorted⟩, shadows⟩ := environment
  have keyed
      : (entries.map fun entry => (keyOf entry.1, changed change entry.2))
        = entries.map fun entry => (entry.1, changed change entry.2) :=
    List.map_congr_left fun entry member => by rw [keyed entry member]
  have members
      : ((toJson ⟨⟨entries, sorted⟩, shadows⟩).mapNumbers change).members?
        = some (entries.map fun entry => (entry.1, entry.2.toJson.mapNumbers change)) := by
    rw [toJson, Json.mapNumbers, mapMembersNumbers_eq, mapValues, List.map_map]
    rfl
  have read
      : (entries.map fun entry => (entry.1, entry.2.toJson.mapNumbers change)).mapM
            (fun member => do return (member.1, ← Variable.ofJson? member.2))
        = some (entries.map fun entry => (entry.1, changed change entry.2)) := by
    rw [List.mapM_map]
    refine mapM_eq_some_map fun entry _ => ?_
    show (Variable.ofJson? (entry.2.toJson.mapNumbers change)).bind _ = _
    rw [Variable.ofJson?_mapNumbers natural]
    rfl
  have built
      : NameMap.ofList (entries.map fun entry => (entry.1, changed change entry.2))
        = (NameMap.mk entries sorted).map (changed change) :=
    NameMap.ofList_entries ((NameMap.mk entries sorted).map (changed change))
  have listed
      : ((NameMap.mk entries sorted).map (changed change)).entries
        = entries.map fun entry => (entry.1, changed change entry.2) := rfl
  rw [ofJson?, members, Option.bind_eq_bind, Option.bind_some]
  refine Option.bind_eq_some_iff.mpr ⟨_, read, ?_⟩
  rw [built, ofNamed, listed, List.map_map]
  exact congrArg (fun bindings => some (Environment.mk bindings []))
    ((congrArg NameMap.ofList keyed).trans built)

/-- An environment that is written with changed numbers reads back as itself only if none changed.
-/
theorem Stored.ofJson?_mapNumbers_eq_self_iff {environment : Environment}
    (stored : environment.Stored) {change : JsonNumber → JsonNumber}
    (natural : ∀ word, change (.natural word) = .natural word)
    : ofJson? (environment.toJson.mapNumbers change) = some environment
      ↔ ∀ number ∈ environment.numbers, change number = number := by
  have same (binding : Variable) (storedValue : binding.value.Stored)
      : changed change binding = binding
        ↔ ∀ number ∈ binding.value.toJson.numbers, change number = number := by
    rw [← storedValue.ofJson_mapNumbers_eq_iff]
    obtain ⟨owner, kind, value⟩ := binding
    simp [changed]
  obtain ⟨unshadowed, bindings⟩ := stored
  have keyed : ∀ entry ∈ environment.bindings.entries, keyOf entry.1 = entry.1 :=
    fun entry member => (bindings entry member).1
  rw [ofJson?_mapNumbers_of_keyed keyed natural, Option.some.injEq]
  obtain ⟨⟨entries, sorted⟩, shadows⟩ := environment
  obtain rfl : shadows = [] := unshadowed
  simp only [mk.injEq, NameMap.map, NameMap.mk.injEq, and_true, map_eq_self_iff, numbers,
    List.mem_flatMap, forall_exists_index, and_imp, Prod.ext_iff, true_and]
  constructor
  · intro all number entry member inside
    exact (same entry.2 (bindings entry member).2).mp (all entry member) number inside
  · intro all entry member
    exact (same entry.2 (bindings entry member).2).mpr fun number inside =>
      all number entry member inside

/-- The bindings of a read environment were read as variables, under their keys. -/
theorem mem_of_ofJson? {json : Json} {environment : Environment}
    (read : ofJson? json = some environment)
    : environment.shadows = []
      ∧ ∃ members,
          json.members? = some members
          ∧ ∀ entry ∈ environment.bindings.entries,
              keyOf entry.1 = entry.1
              ∧ ∃ member ∈ members, Variable.ofJson? member.2 = some entry.2 := by
  simp only [ofJson?, Option.bind_eq_bind, Option.bind_eq_some_iff] at read
  obtain ⟨members, isObject, named, namedRead, made⟩ := read
  obtain rfl := Option.some.inj made
  refine ⟨rfl, members, isObject, fun entry member => ?_⟩
  obtain ⟨old, isOld, rfl⟩ := List.mem_map.mp (NameMap.mem_of_mem_ofList member)
  refine ⟨keyOf_keyOf _, ?_⟩
  obtain ⟨part, isPart, partRead⟩ := mem_of_mapM namedRead old (NameMap.mem_of_mem_ofList isOld)
  simp only [Option.bind_eq_some_iff] at partRead
  obtain ⟨binding, bindingRead, same⟩ := partRead
  obtain rfl := Option.some.inj same
  exact ⟨part, isPart, bindingRead⟩

/-- Reading gives an environment that a document can hold. -/
theorem stored_of_ofJson? {json : Json} {environment : Environment}
    (read : ofJson? json = some environment)
    : environment.Stored := by
  obtain ⟨unshadowed, members, _, all⟩ := mem_of_ofJson? read
  refine ⟨unshadowed, fun entry member => ?_⟩
  obtain ⟨key, part, _, bindingRead⟩ := all entry member
  exact ⟨key, Variable.stored_of_ofJson? bindingRead⟩

/-- An environment is written no deeper than it was read. -/
theorem depth_toJson_le {json : Json} {environment : Environment}
    (read : ofJson? json = some environment)
    : environment.toJson.depth ≤ json.depth := by
  obtain ⟨_, members, isObject, all⟩ := mem_of_ofJson? read
  rw [depth_of_members? isObject, toJson, depth]
  refine Nat.succ_le_succ (membersDepth_le_iff.mpr (List.forall_mem_map.mpr fun entry member => ?_))
  obtain ⟨_, part, isPart, bindingRead⟩ := all entry member
  exact Nat.le_trans (Variable.depth_toJson_le bindingRead)
    (membersDepth_le_iff.mp (Nat.le_refl _) part isPart)

/-- The numbers of a written environment are natural owners and those of the values. -/
theorem forall_numbers_toJson_iff (environment : Environment) {holds : JsonNumber → Prop}
    (natural : ∀ word, holds (.natural word))
    : (∀ number ∈ environment.toJson.numbers, holds number)
      ↔ ∀ number ∈ environment.numbers, holds number := by
  have binding (binding : Variable)
      : (∀ number ∈ binding.toJson.numbers, holds number)
        ↔ ∀ number ∈ binding.value.toJson.numbers, holds number := by
    simp [Variable.numbers_toJson, natural]
  rw [toJson, Json.numbers]
  constructor
  · intro all number member
    obtain ⟨entry, isEntry, inside⟩ := List.mem_flatMap.mp member
    refine (binding entry.2).mp (fun number within => all number ?_) number inside
    exact mem_membersNumbers.mpr ⟨_, List.mem_map_of_mem isEntry, within⟩
  · intro all number member
    obtain ⟨part, isPart, inside⟩ := mem_membersNumbers.mp member
    obtain ⟨entry, isEntry, rfl⟩ := List.mem_map.mp isPart
    refine (binding entry.2).mpr (fun number within => all number ?_) number inside
    exact List.mem_flatMap.mpr ⟨entry, isEntry, within⟩

end Environment

end DesktopAutomation
