import DesktopAutomation.Proofs.Json.Record
import DesktopAutomation.Variable.Basic

/-! The JSON form of variables reads back. A value that stands for JSON is kept in canonical form,
so it is written as it was read; numbers that change on the way change nothing else.
-/

namespace DesktopAutomation
open Json

namespace VariableValue

theorem itemsToJson_ofItems (items : List Json)
    : itemsToJson (ofItems items) = items.map fun item => (ofJson item).toJson := by
  induction items with
  | nil => rfl
  | cons item rest ih => rw [ofItems, itemsToJson, ih, List.map_cons]

theorem ofItems_eq (items : List Json) : ofItems items = items.map ofJson := by
  induction items with
  | nil => rfl
  | cons item rest ih => rw [ofItems, ih, List.map_cons]

/-- A value is written in the canonical form of what it was read from. -/
theorem toJson_ofJson (json : Json) : (ofJson json).toJson = json.canonical := by
  induction json using Json.induction with
  | null | bool _ | number _ | string _ => rfl
  | array items ih =>
      rw [ofJson, toJson, canonical, itemsToJson_ofItems, canonicalItems_eq]
      exact congrArg Json.array (List.map_congr_left ih)
  | object members _ => rfl

/-- The canonical form names the same value. -/
theorem ofJson_canonical (json : Json) : ofJson json.canonical = ofJson json := by
  induction json using Json.induction with
  | null | bool _ | number _ | string _ => rfl
  | array items ih =>
      rw [canonical, ofJson, ofJson, ofItems_eq, ofItems_eq, canonicalItems_eq, List.map_map]
      exact congrArg list (List.map_congr_left ih)
  | object members _ => exact congrArg other (canonical_canonical (.object members))

/-- The value is one that JSON names: what it holds beyond texts and lists is canonical. -/
def Stored (value : VariableValue) : Prop := ofJson value.toJson = value

theorem stored_ofJson (json : Json) : (ofJson json).Stored := by
  rw [Stored, toJson_ofJson, ofJson_canonical]

theorem stored_text (value : String) : (text value).Stored := rfl

theorem stored_null : null.Stored := rfl

/-- A stored value that is written with changed numbers reads back as itself only if none changed.
-/
theorem Stored.ofJson_mapNumbers_eq_iff {value : VariableValue} (stored : value.Stored)
    (change : JsonNumber → JsonNumber)
    : ofJson (value.toJson.mapNumbers change) = value
      ↔ ∀ number ∈ value.toJson.numbers, change number = number := by
  have canonical : value.toJson.canonical = value.toJson := by
    rw [← toJson_ofJson, stored]
  rw [← mapNumbers_eq_self_iff]
  constructor
  · intro same
    have written := congrArg toJson same
    rwa [toJson_ofJson, canonical_mapNumbers, canonical] at written
  · intro same
    rw [same]
    exact stored

end VariableValue

namespace Variable

/-- A variable that is written with changed numbers reads back with the value that the changed
numbers name; the owner is a natural number, and those do not change.
-/
theorem ofJson?_mapNumbers {change : JsonNumber → JsonNumber}
    (natural : ∀ word, change (.natural word) = .natural word) (binding : Variable)
    : ofJson? (binding.toJson.mapNumbers change)
      = some { binding with value := .ofJson (binding.value.toJson.mapNumbers change) } := by
  obtain ⟨owner, kind, value⟩ := binding
  have owned : StepId.ofJson? ((StepId.toJson owner).mapNumbers change) = some owner := by
    rw [StepId.toJson, mapNumbers, natural]
    rfl
  have named : VariableKind.ofJson? (.string kind.name) = some kind :=
    VariableKind.ofName?_name kind
  have fields
      : ((Variable.toJson ⟨owner, kind, value⟩).mapNumbers change).fields? fieldNames
        = some [("ownerId", (StepId.toJson owner).mapNumbers change), ("type", .string kind.name),
            ("value", value.toJson.mapNumbers change)] := rfl
  simp [ofJson?, fields, required?, optional?, owned, named]

/-- What is read as a variable has the value that its field for it names. -/
theorem value_of_ofJson? {json : Json} {binding : Variable} (read : ofJson? json = some binding)
    : ∃ fields value,
        json.fields? fieldNames = some fields
        ∧ required? "value" fields = some value
        ∧ binding.value = .ofJson value := by
  simp only [ofJson?, Option.bind_eq_bind, Option.bind_eq_some_iff] at read
  obtain ⟨fields, isRecord, _, _, owner, _, kind, _, read⟩ := read
  have valued {kind : VariableKind}
      (made
        : ((required? "value" fields).bind fun value =>
            some (⟨owner, kind, .ofJson value⟩ : Variable)) = some binding)
      : ∃ value, required? "value" fields = some value ∧ binding.value = .ofJson value := by
    obtain ⟨value, isValue, same⟩ := Option.bind_eq_some_iff.mp made
    obtain rfl := Option.some.inj same
    exact ⟨value, isValue, rfl⟩
  cases kind with
  | none =>
      obtain ⟨value, isValue, same⟩ := valued read
      exact ⟨fields, value, isRecord, isValue, same⟩
  | some name =>
      obtain ⟨kind, _, made⟩ := Option.bind_eq_some_iff.mp read
      obtain ⟨value, isValue, same⟩ := valued made
      exact ⟨fields, value, isRecord, isValue, same⟩

theorem stored_of_ofJson? {json : Json} {binding : Variable} (read : ofJson? json = some binding)
    : binding.value.Stored := by
  obtain ⟨_, value, _, _, same⟩ := value_of_ofJson? read
  rw [same]
  exact VariableValue.stored_ofJson value

/-- A variable is written no deeper than it was read. -/
theorem depth_toJson_le {json : Json} {binding : Variable} (read : ofJson? json = some binding)
    : binding.toJson.depth ≤ json.depth := by
  obtain ⟨fields, value, isRecord, isValue, same⟩ := value_of_ofJson? read
  have inner := depth_canonical_le value
  have outer := depth_of_required? isValue
  have record := depth_of_fields? isRecord
  simp only [toJson, depth, membersDepth, StepId.toJson, same, VariableValue.toJson_ofJson]
  omega

/-- The numbers of a written variable are its owner and those of its value. -/
theorem numbers_toJson (binding : Variable)
    : binding.toJson.numbers = .natural binding.owner.value :: binding.value.toJson.numbers := by
  simp [toJson, numbers, membersNumbers, StepId.toJson]

end Variable

end DesktopAutomation
