import DesktopAutomation.Json.Token

/-!
JSON texts as trees. A text is first read as written, whatever its numbers and strings name and
however deep it nests. Reading its value then demands that every part has one and that no more than
a given number of arrays and objects lie within each other. So a part that does not matter can be
blanked before it is held to these demands.
-/

namespace DesktopAutomation

/-- A JSON text as a tree. Numbers, strings and keys hold their value, if they name one. -/
inductive RawJson
  | null
  | bool (value : Bool)
  | number (value : Option JsonNumber)
  | string (value : Option String)
  | array (items : List RawJson)
  | object (members : List (Option String × RawJson))

namespace RawJson

/-- An array or an object that is not closed yet: what it holds so far, the last part first, and the
key that waits for its value.
-/
inductive Frame
  | array (reversed : List RawJson)
  | object (reversed : List (Option String × RawJson)) (key : Option String)

/-- What may come next, within the open arrays and objects, the innermost first. -/
inductive Builder
  | value (stack : List Frame)
  | firstItem (stack : List Frame)
  | firstKey (stack : List Frame)
  | key (reversed : List (Option String × RawJson)) (stack : List Frame)
  | colon (reversed : List (Option String × RawJson)) (key : Option String) (stack : List Frame)
  | next (top : Frame) (value : RawJson) (stack : List Frame)
  | done (value : RawJson)

/-- Goes on behind a complete value. -/
def Builder.complete (node : RawJson) : List Frame → Builder
  | [] => .done node
  | top :: stack => .next top node stack

/-- Reads the first token of a value. -/
def Builder.begin? (stack : List Frame) : JsonToken → Option Builder
  | .null => some (.complete .null stack)
  | .bool b => some (.complete (.bool b) stack)
  | .number n => some (.complete (.number n) stack)
  | .string s => some (.complete (.string s) stack)
  | .openArray => some (.firstItem stack)
  | .openObject => some (.firstKey stack)
  | _ => none

/-- Reads one token. -/
def Builder.read? (builder : Builder) (token : JsonToken) : Option Builder :=
  match builder, token with
  | .value stack, token => begin? stack token
  | .firstItem stack, .closeArray => some (complete (.array []) stack)
  | .firstItem stack, token => begin? (.array [] :: stack) token
  | .firstKey stack, .closeObject => some (complete (.object []) stack)
  | .firstKey stack, .string label => some (.colon [] label stack)
  | .key reversed stack, .string label => some (.colon reversed label stack)
  | .colon reversed label stack, .colon => some (.value (.object reversed label :: stack))
  | .next (.array reversed) node stack, .comma => some (.value (.array (node :: reversed) :: stack))
  | .next (.array reversed) node stack, .closeArray =>
    some (complete (.array (node :: reversed).reverse) stack)
  | .next (.object reversed label) node stack, .comma => some (.key ((label, node) :: reversed) stack)
  | .next (.object reversed label) node stack, .closeObject =>
    some (complete (.object ((label, node) :: reversed).reverse) stack)
  | _, _ => none

/-- The tree of a text. -/
def ofText? (text : String) : Option RawJson := do
  let tokens ← JsonToken.ofChars? text.toList
  match ← tokens.foldlM Builder.read? (.value []) with
  | .done value => some value
  | _ => none

mutual

/-- The value of a tree with at most `depth` arrays and objects within each other. -/
def value? (depth : Nat) : RawJson → Option Json
  | .null => some .null
  | .bool value => some (.bool value)
  | .number value => value.map .number
  | .string value => value.map .string
  | .array items =>
    if depth = 0 then none else (itemValues? (depth - 1) items).map .array
  | .object members =>
    if depth = 0 then none else (memberValues? (depth - 1) members).map .object

/-- The values of all items. -/
def itemValues? (depth : Nat) : List RawJson → Option (List Json)
  | [] => some []
  | item :: rest => do
    let value ← item.value? depth
    let values ← itemValues? depth rest
    return value :: values

/-- The keys and values of all members. -/
def memberValues? (depth : Nat) : List (Option String × RawJson) → Option (List (String × Json))
  | [] => some []
  | (key?, member) :: rest => do
    let key ← key?
    let value ← member.value? depth
    let values ← memberValues? depth rest
    return (key, value) :: values

end

/-- At most this many arrays and objects may lie within each other. -/
def depthLimit : Nat := 127

end RawJson

/-- The value of a JSON text. -/
def Json.ofText? (text : String) : Option Json := do
  let raw ← RawJson.ofText? text
  raw.value? RawJson.depthLimit

end DesktopAutomation
