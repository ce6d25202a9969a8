import DesktopAutomation.Json.Record
import DesktopAutomation.Number.Decimal
import DesktopAutomation.Number.Natural
import DesktopAutomation.Text.Blank

/-!
Values of variables. Texts, lists and null are what steps work with; any other JSON value is kept
as it is. Values have a number reading, which ordering comparisons use.
-/

namespace DesktopAutomation
open Number

/-- The value of a variable. -/
inductive VariableValue
  | text (value : String)
  | list (items : List VariableValue)
  | null
  | other (value : Json)

namespace VariableValue

/-- The text that a value is. -/
def asText? : VariableValue → Option String
  | .text value => some value
  | _ => none

/-- The items of the list that a value is. -/
def asList? : VariableValue → Option (List VariableValue)
  | .list items => some items
  | _ => none

/-- The name of the kind of a value, for messages. -/
def shape : VariableValue → String
  | .text _ => "text"
  | .list _ => "list"
  | .null => "null"
  | .other _ => "other"

-----------------------------------------------------------------------------------------
-- Number readings
-----------------------------------------------------------------------------------------

/-- A whole number in a radix; digits that name no number below 2^64 read as no number. -/
def radixNumber (radix : Nat) (digits : List Char) : Binary64 :=
  match readNatural radix digits with
  | .ok value => .ofNat value
  | .error _ => .nan

/-- A character that a decimal literal may hold. -/
def isDecimalChar (c : Char) : Bool :=
  c.isDigit || c ∈ ['+', '-', '.', 'e', 'E']

/-- The number reading of a trimmed text. -/
def trimmedNumber (chars : List Char) : Binary64 :=
  if chars = [] then .finite (.zero false)
  else if chars = "Infinity".toList ∨ chars = "+Infinity".toList then .infinite false
  else if chars = "-Infinity".toList then .infinite true
  else
    match chars with
    | '0' :: 'x' :: digits | '0' :: 'X' :: digits => radixNumber 16 digits
    | '0' :: 'o' :: digits | '0' :: 'O' :: digits => radixNumber 8 digits
    | '0' :: 'b' :: digits | '0' :: 'B' :: digits => radixNumber 2 digits
    | literal =>
      if literal.all isDecimalChar then (readDecimal literal).getD .nan else .nan

/-- The number reading of a value. Null and blank text read as zero, truth values as zero and one;
lists and objects read as no number.
-/
def number : VariableValue → Binary64
  | .text value => trimmedNumber (Text.trimEnds Text.isBlank value.toList)
  | .null => .finite (.zero false)
  | .other (.number value) => value.toBinary64
  | .other (.bool value) => .ofNat value.toNat
  | .other _ | .list _ => .nan

-----------------------------------------------------------------------------------------
-- Sameness
-----------------------------------------------------------------------------------------

mutual

/-- Two values are the same in kind and content. -/
def same : VariableValue → VariableValue → Bool
  | .text a, .text b => a == b
  | .list a, .list b => sameItems a b
  | .null, .null => true
  | .other a, .other b => a.same b
  | _, _ => false

/-- Sameness item by item. -/
def sameItems : List VariableValue → List VariableValue → Bool
  | [], [] => true
  | a :: as, b :: bs => a.same b && sameItems as bs
  | _, _ => false

end

-----------------------------------------------------------------------------------------
-- JSON form
-----------------------------------------------------------------------------------------

mutual

/-- The value that JSON names. Objects are kept in canonical form. -/
def ofJson : Json → VariableValue
  | .string value => .text value
  | .array items => .list (ofItems items)
  | .null => .null
  | json => .other json.canonical

/-- The values that JSON items name. -/
def ofItems : List Json → List VariableValue
  | [] => []
  | item :: rest => ofJson item :: ofItems rest

end

mutual

/-- The JSON form of a value. -/
def toJson : VariableValue → Json
  | .text value => .string value
  | .list items => .array (itemsToJson items)
  | .null => .null
  | .other value => value

/-- The JSON forms of items. -/
def itemsToJson : List VariableValue → List Json
  | [] => []
  | item :: rest => item.toJson :: itemsToJson rest

end

end VariableValue

end DesktopAutomation
