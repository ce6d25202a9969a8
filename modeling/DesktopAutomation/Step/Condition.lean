import DesktopAutomation.Text.Quoted
import DesktopAutomation.Variable.Value

/-!
Conditions: two sides, each a literal text or a variable, and an operator between them. Equality
compares the values themselves, the orderings compare their number readings.
-/

namespace DesktopAutomation

/-- One side of a condition. -/
inductive ConditionSide
  | literal (text : String)
  | variable (name : String)
deriving DecidableEq, Repr

namespace ConditionSide

/-- The text of a side: literals are quoted, variables are marked. -/
def text : ConditionSide → String
  | .literal text => Text.quoted text
  | .variable name => "$" ++ name

/-- The JSON form of a side. -/
def toJson : ConditionSide → Json
  | .literal text => .object [("origin", .string "value"), ("value", .string text)]
  | .variable name => .object [("origin", .string "variable"), ("readFrom", .string name)]

/-- Where a side takes its value from. -/
inductive Origin
  | literal
  | variable
deriving DecidableEq, Repr

/-- Reads an origin. Within a step it may be told by its place in the order of origins. -/
def Origin.ofJson? (place : Json.Place) : Json → Option Origin
  | .string "value" => some .literal
  | .string "variable" => some .variable
  | .number (.natural 0) => if place = .withinStep then some .literal else none
  | .number (.natural 1) => if place = .withinStep then some .variable else none
  | _ => none

/-- Reads the side of an origin from the value of its one field. -/
def ofOrigin? (origin : Origin) (value : Json) : Option ConditionSide :=
  match origin with
  | .literal => value.string?.map .literal
  | .variable => value.string?.map .variable

/-- The name of the field that holds what an origin refers to. -/
def Origin.fieldName : Origin → String
  | .literal => "value"
  | .variable => "readFrom"

/-- Reads the JSON form of a side: an object, or an array of the origin and the value. -/
def ofJson? (place : Json.Place) : Json → Option ConditionSide
  | .object members => do
    let origin ← Origin.ofJson? place (← Json.required? "origin" members)
    ofOrigin? origin (← Json.required? origin.fieldName members)
  | .array [origin, value] => do ofOrigin? (← Origin.ofJson? place origin) value
  | _ => none

end ConditionSide

/-- A comparison. -/
inductive Operator
  | equal
  | notEqual
  | greaterThan
  | lesserThan
  | greaterOrEqualThan
  | lesserOrEqualThan
deriving DecidableEq, Repr

namespace Operator

/-- The name of an operator. -/
def name : Operator → String
  | .equal => "equal"
  | .notEqual => "notEqual"
  | .greaterThan => "greaterThan"
  | .lesserThan => "lesserThan"
  | .greaterOrEqualThan => "greaterOrEqualThan"
  | .lesserOrEqualThan => "lesserOrEqualThan"

/-- The operator with a name. -/
def ofName? : String → Option Operator
  | "equal" => some .equal
  | "notEqual" => some .notEqual
  | "greaterThan" => some .greaterThan
  | "lesserThan" => some .lesserThan
  | "greaterOrEqualThan" => some .greaterOrEqualThan
  | "lesserOrEqualThan" => some .lesserOrEqualThan
  | _ => none

theorem ofName?_name (operator : Operator) : ofName? operator.name = some operator := by
  cases operator <;> rfl

/-- The sign of an operator. -/
def symbol : Operator → String
  | .equal => "=="
  | .notEqual => "!="
  | .greaterThan => ">"
  | .lesserThan => "<"
  | .greaterOrEqualThan => ">="
  | .lesserOrEqualThan => "<="

/-- The operator compares number readings. -/
def isOrdering (operator : Operator) : Bool :=
  operator != .equal && operator != .notEqual

/-- The comparison holds between two values. No ordering holds of a value without a number reading.
-/
def holds (operator : Operator) (left right : VariableValue) : Bool :=
  match operator with
  | .equal => left.same right
  | .notEqual => !left.same right
  | .greaterThan => right.number.less left.number
  | .lesserThan => left.number.less right.number
  | .greaterOrEqualThan => right.number.atMost left.number
  | .lesserOrEqualThan => left.number.atMost right.number

/-- Reads the JSON form of an operator. -/
def ofJson? (place : Json.Place) (json : Json) : Option Operator :=
  (json.name? place).bind ofName?

end Operator

/-- A condition. -/
structure Condition where
  left : ConditionSide
  operator : Operator
  right : ConditionSide
deriving DecidableEq, Repr

namespace Condition

/-- The text of a condition. -/
def text (condition : Condition) : String :=
  condition.left.text ++ " " ++ condition.operator.symbol ++ " " ++ condition.right.text

/-- The fields of a condition in their order. -/
def fieldNames : List String := ["leftSide", "operator", "rightSide"]

/-- The JSON form of a condition. -/
def toJson (condition : Condition) : Json :=
  .object [
    ("leftSide", condition.left.toJson),
    ("operator", .string condition.operator.name),
    ("rightSide", condition.right.toJson)]

/-- Reads the JSON form of a condition. -/
def ofJson? (place : Json.Place) (json : Json) : Option Condition := do
  let fields ← json.fields? fieldNames
  return {
    left := ← ConditionSide.ofJson? place (← Json.required? "leftSide" fields)
    operator := ← Operator.ofJson? place (← Json.required? "operator" fields)
    right := ← ConditionSide.ofJson? place (← Json.required? "rightSide" fields) }

end Condition

end DesktopAutomation
