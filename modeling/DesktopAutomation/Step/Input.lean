import DesktopAutomation.Json.Record
import DesktopAutomation.Text.Case

/-!
What a user can do with mouse and keyboard: points of the screen, mouse buttons and key
combinations, with their texts and their JSON forms.
-/

namespace DesktopAutomation

/-- A point of the screen, counted in pixels from the top left corner. -/
structure Point where
  x : UInt64
  y : UInt64
deriving DecidableEq, Repr

/-- A mouse button. -/
inductive MouseButton
  | left
  | right
  | middle
deriving DecidableEq, Repr

namespace MouseButton

/-- The name of a button. -/
def name : MouseButton → String
  | .left => "left"
  | .right => "right"
  | .middle => "middle"

/-- The button with a name. -/
def ofName? : String → Option MouseButton
  | "left" => some .left
  | "right" => some .right
  | "middle" => some .middle
  | _ => none

theorem ofName?_name (button : MouseButton) : ofName? button.name = some button := by
  cases button <;> rfl

/-- Reads the JSON form of a button. -/
def ofJson? (place : Json.Place) (json : Json) : Option MouseButton :=
  (json.name? place).bind ofName?

end MouseButton

/-- A key pressed while modifier keys may be held. The key has a code and a printable name. -/
structure KeyCombination where
  holdCtrl : Bool
  holdShift : Bool
  holdAlt : Bool
  keyCode : UInt64
  keyName : String
deriving DecidableEq, Repr

namespace KeyCombination

/-- The Enter key alone. -/
def enter : KeyCombination := ⟨false, false, false, 13, "Enter"⟩

/-- A key whose name is a single character is pressed by that character, all others by their code.
-/
def usesUnicode (combination : KeyCombination) : Bool :=
  combination.keyName.toList.length == 1

/-- The text of a combination: the held modifiers, then the key, single characters in upper case. -/
def text (combination : KeyCombination) : String :=
  (if combination.holdCtrl then "Ctrl+" else "")
    ++ (if combination.holdShift then "Shift+" else "")
    ++ (if combination.holdAlt then "Alt+" else "")
    ++ (if combination.usesUnicode then Text.uppercase combination.keyName
        else combination.keyName)

/-- The fields of a combination in their order. -/
def fieldNames : List String := ["holdCtrl", "holdShift", "holdAlt", "keyCode", "keyName"]

/-- The JSON form of a combination. -/
def toJson (combination : KeyCombination) : Json :=
  .object [
    ("holdCtrl", .bool combination.holdCtrl),
    ("holdShift", .bool combination.holdShift),
    ("holdAlt", .bool combination.holdAlt),
    ("keyCode", .number (.natural combination.keyCode)),
    ("keyName", .string combination.keyName)]

/-- Reads the JSON form of a combination. -/
def ofJson? (json : Json) : Option KeyCombination := do
  let fields ← json.fields? fieldNames
  return {
    holdCtrl := ← (← Json.required? "holdCtrl" fields).bool?
    holdShift := ← (← Json.required? "holdShift" fields).bool?
    holdAlt := ← (← Json.required? "holdAlt" fields).bool?
    keyCode := ← (← Json.required? "keyCode" fields).word?
    keyName := ← (← Json.required? "keyName" fields).string? }

theorem ofJson?_toJson (combination : KeyCombination)
    : ofJson? combination.toJson = some combination := rfl

end KeyCombination

end DesktopAutomation
