import DesktopAutomation.NameMap
import DesktopAutomation.Text.Case
import DesktopAutomation.Tree.Basic

/-!
Environments: variables bound to names. Names that differ in case only are one name; its lower case
form is its key. Above the lasting bindings lies a stack of shadows, each of which hides the binding
of its name for a while; what is written to a hidden name goes away with its shadow.
-/

namespace DesktopAutomation

/-- The form of a name that bindings are kept under. -/
def keyOf (name : String) : String := Text.lowercase name

/-- Changes the innermost shadow with a key, if there is one. -/
def setShadow? (key : String) (binding : Variable) : List (String × Variable)
    → Option (List (String × Variable))
  | [] => none
  | (hidden, old) :: rest =>
    if hidden = key then some ((hidden, binding) :: rest)
    else (setShadow? key binding rest).map ((hidden, old) :: ·)

/-- Which variables a listing shows. What is not given does not matter. -/
structure VariableFilter where
  kind : Option VariableKind
  owner : Option StepId
deriving DecidableEq, Repr

/-- The filter that all variables pass. -/
def VariableFilter.all : VariableFilter := ⟨none, none⟩

/-- A variable passes a filter. -/
def VariableFilter.passes (filter : VariableFilter) (binding : Variable) : Bool :=
  filter.kind.all (· == binding.kind) && filter.owner.all (· == binding.owner)

/-- The lasting bindings, and the shadows with the innermost first. -/
structure Environment where
  bindings : NameMap Variable
  shadows : List (String × Variable)

namespace Environment

/-- The environment without bindings and shadows. -/
def empty : Environment := ⟨.empty, []⟩

/-- The variable of a name: that of the innermost shadow, else the lasting one. -/
def get? (environment : Environment) (name : String) : Option Variable :=
  (environment.shadows.lookup (keyOf name)).or (environment.bindings.find? (keyOf name))

/-- A name is bound. -/
def has (environment : Environment) (name : String) : Bool := (environment.get? name).isSome

/-- Binds a name: in its innermost shadow, else for lasting. -/
def set (environment : Environment) (name : String) (binding : Variable) : Environment :=
  match setShadow? (keyOf name) binding environment.shadows with
  | some shadows => { environment with shadows := shadows }
  | none => { environment with bindings := environment.bindings.insert (keyOf name) binding }

/-- The lasting variable of a name. -/
def lasting? (environment : Environment) (name : String) : Option Variable :=
  environment.bindings.find? (keyOf name)

/-- Drops the lasting binding of a name. -/
def delete (environment : Environment) (name : String) : Environment :=
  { environment with bindings := environment.bindings.erase (keyOf name) }

/-- Drops all lasting bindings. -/
def clear (environment : Environment) : Environment := { environment with bindings := .empty }

/-- The lasting bindings that pass a filter, in the order of their keys. -/
def entries (environment : Environment) (filter : VariableFilter) : List (String × Variable) :=
  environment.bindings.entries.filter fun (_, binding) => filter.passes binding

/-- The keys of the lasting bindings that pass a filter. -/
def names (environment : Environment) (filter : VariableFilter) : List String :=
  (environment.entries filter).map (·.1)

/-- The number of lasting bindings. -/
def size (environment : Environment) : Nat := environment.bindings.size

/-- Hides a name behind a shadow. -/
def shadow (environment : Environment) (name : String) (binding : Variable) : Environment :=
  { environment with shadows := (keyOf name, binding) :: environment.shadows }

/-- Drops the innermost shadow. -/
def unshadow (environment : Environment) : Environment :=
  { environment with shadows := environment.shadows.tail }

-----------------------------------------------------------------------------------------
-- Deleting what steps declare
-----------------------------------------------------------------------------------------

/-- Drops the lasting bindings of some names; the keys that were bound, in the order of the names.
-/
def deleteAll (environment : Environment) : List String → List String × Environment
  | [] => ([], environment)
  | name :: rest =>
    let (dropped, left) := (environment.delete name).deleteAll rest
    (if (environment.lasting? name).isSome then keyOf name :: dropped else dropped, left)

/-- Drops the bindings of all names that a step or the steps within it declare. -/
def deleteDeclared (environment : Environment) (tree : StepTree) (id : StepId)
    : List String × Environment :=
  match tree.find? id with
  | some step => environment.deleteAll ((walk [step]).filterMap Step.declaredName?)
  | none => ([], environment)

-----------------------------------------------------------------------------------------
-- JSON form
-----------------------------------------------------------------------------------------

/-- The JSON form of the lasting bindings. -/
def toJson (environment : Environment) : Json :=
  .object (environment.bindings.entries.map fun (name, binding) => (name, binding.toJson))

/-- The lasting bindings of variables with names of any case. Of names that differ in case only the
greatest counts.
-/
def ofNamed (named : NameMap Variable) : Environment :=
  ⟨.ofList (named.entries.map fun (name, binding) => (keyOf name, binding)), []⟩

/-- Reads the JSON form of an environment. Of repeated members the last counts. -/
def ofJson? (json : Json) : Option Environment := do
  let named ← (← json.members?).mapM fun (name, value) => do
    return (name, ← Variable.ofJson? value)
  return ofNamed (.ofList named)

end Environment

end DesktopAutomation
