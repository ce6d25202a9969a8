import DesktopAutomation.Json.Basic
import DesktopAutomation.Number.Shortest

/-!
Printing JSON values. A layout says what stands where a line may break and behind a colon.
-/

namespace DesktopAutomation

/-- The text of a number. -/
def JsonNumber.text : JsonNumber → List Char
  | .natural value => Nat.toDigits 10 value.toNat
  | .negative predecessor => '-' :: Nat.toDigits 10 (predecessor.val + 1)
  | .float value => value.text.toList

/-- Blank text between tokens: where an item starts or a bracket closes at a depth, and behind the
colon of a member.
-/
structure JsonLayout where
  lineBreak : Nat → List Char
  gap : List Char

/-- One item a line, two spaces deeper for each array and object around it. -/
def JsonLayout.indented : JsonLayout :=
  ⟨fun depth => '\n' :: List.replicate (2 * depth) ' ', [' ']⟩

/-- No blank text at all. -/
def JsonLayout.compact : JsonLayout := ⟨fun _ => [], []⟩

namespace Json

/-- One character of a string. Only quotes, backslashes and control characters are escaped. -/
def escape (c : Char) : List Char :=
  match c with
  | '"' => ['\\', '"']
  | '\\' => ['\\', '\\']
  | '\x08' => ['\\', 'b']
  | '\x0c' => ['\\', 'f']
  | '\n' => ['\\', 'n']
  | '\r' => ['\\', 'r']
  | '\t' => ['\\', 't']
  | _ =>
    if c.toNat < 0x20 then
      ['\\', 'u', '0', '0', Nat.digitChar (c.toNat / 16), Nat.digitChar (c.toNat % 16)]
    else
      [c]

/-- The text of a string. -/
def stringText (value : String) : List Char :=
  '"' :: value.toList.flatMap escape ++ ['"']

mutual

/-- The text of a value that stands within `depth` arrays and objects. -/
def print (layout : JsonLayout) (depth : Nat) : Json → List Char
  | .null => "null".toList
  | .bool value => (if value then "true" else "false").toList
  | .number value => value.text
  | .string value => stringText value
  | .array items =>
    if items.isEmpty then ['[', ']']
    else '[' :: printItems layout (depth + 1) true items ++ layout.lineBreak depth ++ [']']
  | .object members =>
    if members.isEmpty then ['\x7b', '\x7d']
    else
      '\x7b' :: printMembers layout (depth + 1) true members ++ layout.lineBreak depth ++ ['\x7d']

/-- The text of the items of an array; a comma stands before every item but the first. -/
def printItems (layout : JsonLayout) (depth : Nat) (first : Bool) : List Json → List Char
  | [] => []
  | item :: rest =>
    (if first then [] else [',']) ++ layout.lineBreak depth ++ item.print layout depth
      ++ printItems layout depth false rest

/-- The text of the members of an object; a comma stands before every member but the first. -/
def printMembers (layout : JsonLayout) (depth : Nat) (first : Bool)
    : List (String × Json) → List Char
  | [] => []
  | (key, value) :: rest =>
    (if first then [] else [',']) ++ layout.lineBreak depth ++ stringText key
      ++ ':' :: layout.gap ++ value.print layout depth
      ++ printMembers layout depth false rest

end

/-- The text of a value, one item a line. -/
def pretty (json : Json) : String := String.ofList (json.print .indented 0)

/-- The text of a value on one line. -/
def inline (json : Json) : String := String.ofList (json.print .compact 0)

end Json

end DesktopAutomation
