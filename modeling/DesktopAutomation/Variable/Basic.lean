import DesktopAutomation.Step.Id
import DesktopAutomation.Variable.Value

/-!
Variables: a value with the kind it was declared with and the step that owns it.
-/

namespace DesktopAutomation

/-- What a variable was declared to hold. -/
inductive VariableKind
  | value
  | list
deriving DecidableEq, Repr

namespace VariableKind

/-- The name of a kind. -/
def name : VariableKind → String
  | .value => "value"
  | .list => "list"

/-- The kind with a name. -/
def ofName? : String → Option VariableKind
  | "value" => some .value
  | "list" => some .list
  | _ => none

theorem ofName?_name (kind : VariableKind) : ofName? kind.name = some kind := by
  cases kind <;> rfl

/-- Reads the JSON form of a kind. -/
def ofJson? (json : Json) : Option VariableKind :=
  (json.name? .alone).bind ofName?

end VariableKind

/-- A variable, without its name. -/
structure Variable where
  owner : StepId
  kind : VariableKind
  value : VariableValue

namespace Variable

/-- A variable with a text. -/
def ofText (owner : StepId) (text : String) : Variable := ⟨owner, .value, .text text⟩

/-- A variable with a list of texts. -/
def ofTexts (owner : StepId) (texts : List String) : Variable :=
  ⟨owner, .list, .list (texts.map .text)⟩

/-- Two variables are the same but for the spelling of zeros. -/
def same (a b : Variable) : Bool :=
  a.owner == b.owner && a.kind == b.kind && a.value.same b.value

/-- The fields of a variable in their order. -/
def fieldNames : List String := ["ownerId", "type", "value"]

/-- The JSON form of a variable. -/
def toJson (binding : Variable) : Json :=
  .object [
    ("ownerId", binding.owner.toJson),
    ("type", .string binding.kind.name),
    ("value", binding.value.toJson)]

/-- Reads the JSON form of a variable. A missing kind is that of a value. -/
def ofJson? (json : Json) : Option Variable := do
  let fields ← json.fields? fieldNames
  return {
    owner := ← StepId.ofJson? (← Json.required? "ownerId" fields)
    kind := ←
      match ← Json.optional? "type" fields with
      | none => some .value
      | some kind => VariableKind.ofJson? kind
    value := .ofJson (← Json.required? "value" fields) }

end Variable

end DesktopAutomation
