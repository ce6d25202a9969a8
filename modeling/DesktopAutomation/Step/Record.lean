import DesktopAutomation.Step.Basic

/-!
The JSON form of steps. A step is an object with its id, the name of its type and the data of that
type; the body of a statement is a list of steps within the data. A step is read as a whole or not
at all.
-/

namespace DesktopAutomation
open Json

-----------------------------------------------------------------------------------------
-- Writing
-----------------------------------------------------------------------------------------

/-- The data of an action. -/
def Action.toJson : Action → Json
  | .move target =>
    .object [("x", .number (.natural target.x)), ("y", .number (.natural target.y))]
  | .click button => .object [("button", .string button.name)]
  | .write text readFrom => .object [("text", .string text), ("readFrom", .string readFrom)]
  | .parseString text readFrom divider saveAs =>
    .object [
      ("parseString", .string text),
      ("readFrom", .string readFrom),
      ("divider", .string divider),
      ("saveAs", .string saveAs)]
  | .sleep time => .object [("time", .number (.natural time))]
  | .pressKeyboard combination => combination.toJson
  | .setVariable saveAs value => .object [("saveAs", .string saveAs), ("value", .string value)]
  | .destructVariable readFrom index saveAs =>
    .object [
      ("readFrom", .string readFrom),
      ("index", .number (.natural index)),
      ("saveAs", .string saveAs)]

/-- The data of a statement, apart from its body. -/
def Statement.fields : Statement → List (String × Json)
  | .cycle iterable saveItemsAs =>
    [("iterable", .string iterable), ("saveItemsAs", .string saveItemsAs)]
  | .conditional condition => [("condition", condition.toJson)]

namespace Step

/-- The JSON form of a step, from the name of its type and its data. -/
def record (id : StepId) (typeName : String) (data : Json) : Json :=
  .object [("id", id.toJson), ("type", .string typeName), ("data", data)]

mutual

/-- The JSON form of a step. -/
def toJson : Step → Json
  | .action id act => record id act.typeName act.toJson
  | .statement id stmt body =>
    record id stmt.typeName (.object (stmt.fields ++ [("steps", .array (bodyToJson body))]))

/-- The JSON forms of the steps of a body. -/
def bodyToJson : List Step → List Json
  | [] => []
  | step :: rest => step.toJson :: bodyToJson rest

end

end Step

-----------------------------------------------------------------------------------------
-- Reading
-----------------------------------------------------------------------------------------

/-- Reads the data of an action of the type with a name. -/
def Action.ofJson? (typeName : String) (data : Json) : Option Action :=
  let text? (name : String) : Option String := do (← required? name (← data.members?)).string?
  let word? (name : String) : Option UInt64 := do (← required? name (← data.members?)).word?
  match typeName with
  | "move" => return .move ⟨← word? "x", ← word? "y"⟩
  | "click" => do
    return .click (← MouseButton.ofJson? .withinStep (← required? "button" (← data.members?)))
  | "write" => return .write (← text? "text") (← text? "readFrom")
  | "parseString" =>
    return .parseString (← text? "parseString") (← text? "readFrom") (← text? "divider")
      (← text? "saveAs")
  | "sleep" => return .sleep (← word? "time")
  | "pressKeyboard" => (KeyCombination.ofJson? data).map .pressKeyboard
  | "setVariable" => return .setVariable (← text? "saveAs") (← text? "value")
  | "destructVariable" =>
    return .destructVariable (← text? "readFrom") (← word? "index") (← text? "saveAs")
  | _ => none

/-- Reads the data of a statement of the type with a name, apart from its body, which must be there.
-/
def Statement.ofJson? (typeName : String) (data : Json) : Option Statement := do
  let members ← data.members?
  let _ ← required? "steps" members
  match typeName with
  | "cycle" =>
    return .cycle (← (← required? "iterable" members).string?)
      (← (← required? "saveItemsAs" members).string?)
  | "conditional" =>
    return .conditional (← Condition.ofJson? .withinStep (← required? "condition" members))
  | _ => none

namespace Step

mutual

/-- Reads the JSON form of a step. -/
def ofJson? : Json → Option Step
  | .object members => do
    let id ← StepId.ofJson? (← required? "id" members)
    let typeName ← (← required? "type" members).name? .withinStep
    let data ← required? "data" members
    match Statement.ofJson? typeName data with
    | some stmt => (bodyOfMembers? members).map (.statement id stmt)
    | none => (Action.ofJson? typeName data).map (.action id)
  | _ => none

/-- Reads the body of a step from the data among its members. -/
def bodyOfMembers? : List (String × Json) → Option (List Step)
  | [] => none
  | (name, data) :: rest => if name = "data" then bodyOfData? data else bodyOfMembers? rest

/-- Reads the body of a step from its data. -/
def bodyOfData? : Json → Option (List Step)
  | .object members => bodyOfFields? members
  | _ => none

/-- Reads the body of a step from the fields of its data. -/
def bodyOfFields? : List (String × Json) → Option (List Step)
  | [] => none
  | (name, steps) :: rest => if name = "steps" then listOfJson? steps else bodyOfFields? rest

/-- Reads the JSON form of a list of steps. -/
def listOfJson? : Json → Option (List Step)
  | .array items => ofItems? items
  | _ => none

/-- Reads the JSON forms of steps. -/
def ofItems? : List Json → Option (List Step)
  | [] => some []
  | item :: rest => do
    let step ← ofJson? item
    let steps ← ofItems? rest
    return step :: steps

end

end Step

end DesktopAutomation
