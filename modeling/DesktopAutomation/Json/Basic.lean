import DesktopAutomation.NameMap
import DesktopAutomation.Number.Binary64

/-!
JSON values. Integers keep their full precision within the range of 64-bit words, all other numbers
are doubles. The members of an object stay in written order and may repeat a key; the canonical
form of a value sorts them and keeps the last of each key.
-/

namespace DesktopAutomation
open Number

/-- A JSON number: an integer from -2^63 up to 2^64 - 1, or a finite double. -/
inductive JsonNumber
  | natural (value : UInt64)
  | negative (predecessor : Fin firstBit)
  | float (value : Finite)
deriving DecidableEq, Repr

/-- A JSON value. -/
inductive Json
  | null
  | bool (value : Bool)
  | number (value : JsonNumber)
  | string (value : String)
  | array (items : List Json)
  | object (members : List (String × Json))

/-- The integer that a number is, if it is no double. -/
def JsonNumber.integer? : JsonNumber → Option Int
  | .natural value => some value.toNat
  | .negative predecessor => some (-(predecessor.val + 1 : Int))
  | .float _ => none

/-- The double nearest to a number. -/
def JsonNumber.toBinary64 : JsonNumber → Binary64
  | .natural value => .ofNat value.toNat
  | .negative predecessor => .ofRatio true (predecessor.val + 1) 1
  | .float value => .finite value

/-- Two numbers are the same if both are integers or both are doubles, and of one value. -/
def JsonNumber.same : JsonNumber → JsonNumber → Bool
  | .natural a, .natural b => a == b
  | .negative a, .negative b => a == b
  | .float a, .float b => a.same b
  | _, _ => false

namespace Json

mutual

/-- Two values are the same in shape, texts and numbers; the two zeros among doubles are. -/
def same : Json → Json → Bool
  | .null, .null => true
  | .bool a, .bool b => a == b
  | .number a, .number b => a.same b
  | .string a, .string b => a == b
  | .array a, .array b => sameItems a b
  | .object a, .object b => sameMembers a b
  | _, _ => false

/-- Sameness item by item. -/
def sameItems : List Json → List Json → Bool
  | [], [] => true
  | a :: as, b :: bs => a.same b && sameItems as bs
  | _, _ => false

/-- Sameness member by member, keys included. -/
def sameMembers : List (String × Json) → List (String × Json) → Bool
  | [], [] => true
  | (j, a) :: as, (k, b) :: bs => j == k && a.same b && sameMembers as bs
  | _, _ => false

end

mutual

/-- The value with the members of every object sorted by key, the last of each key kept. -/
def canonical : Json → Json
  | .array items => .array (canonicalItems items)
  | .object members => .object (canonicalMembers [] members)
  | json => json

/-- The canonical forms of all items. -/
def canonicalItems : List Json → List Json
  | [] => []
  | item :: rest => item.canonical :: canonicalItems rest

/-- Puts the canonical forms of all members among the sorted members `sorted`. -/
def canonicalMembers (sorted : List (String × Json)) : List (String × Json) → List (String × Json)
  | [] => sorted
  | (key, value) :: rest => canonicalMembers (insertSorted key value.canonical sorted) rest

end

/-- The text that a value is. -/
def string? : Json → Option String
  | .string value => some value
  | _ => none

/-- The truth value that a value is. -/
def bool? : Json → Option Bool
  | .bool value => some value
  | _ => none

/-- The word that a value is: an integer from zero below 2^64, written without a fraction. -/
def word? : Json → Option UInt64
  | .number (.natural value) => some value
  | _ => none

/-- The items of an array. -/
def items? : Json → Option (List Json)
  | .array items => some items
  | _ => none

end Json

end DesktopAutomation
