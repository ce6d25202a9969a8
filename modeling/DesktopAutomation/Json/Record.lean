import DesktopAutomation.Json.Basic

/-!
Records written as JSON: an object with named fields in any order, or an array of the fields in
their own order. Unknown members do not matter, repeated fields are refused. Names of a closed set
may be written as strings or as objects with the name as their one key.
-/

namespace DesktopAutomation.Json

/-- The value of a field that stands exactly once among the members. -/
def required? (name : String) (members : List (String × Json)) : Option Json :=
  match members.filter (·.1 == name) with
  | [member] => some member.2
  | _ => none

/-- The value of a field that stands at most once among the members. -/
def optional? (name : String) (members : List (String × Json)) : Option (Option Json) :=
  match members.filter (·.1 == name) with
  | [] => some none
  | [member] => some (some member.2)
  | _ => none

/-- The members of an object. -/
def members? : Json → Option (List (String × Json))
  | .object members => some members
  | _ => none

/-- The members of a record with the given fields; the items of an array are its first fields. -/
def fields? (names : List String) : Json → Option (List (String × Json))
  | .object members => some members
  | .array items => if items.length ≤ names.length then some (names.zip items) else none
  | _ => none

/-- Where a name of a closed set is written: by itself, or within a step, where an empty object may
stand for null and a place for an origin.
-/
inductive Place
  | alone
  | withinStep
deriving DecidableEq, Repr

/-- The name that a value writes: a string, or the one key of an object whose value is empty. -/
def name? (place : Place) : Json → Option String
  | .string name => some name
  | .object [(name, .null)] => some name
  | .object [(name, .object [])] => if place = .withinStep then some name else none
  | _ => none

end DesktopAutomation.Json
