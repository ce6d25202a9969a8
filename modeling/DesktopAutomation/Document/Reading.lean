import DesktopAutomation.Document.Validity
import DesktopAutomation.Json.Raw

/-!
Reading the text of a document. The text is read as a whole or not at all. Members that a document
does not know may hold anything, however deep, as long as it is JSON.
-/

namespace DesktopAutomation

namespace RawJson

/-- Changes the parts of a list one by one, each in its own way. -/
def changeEach : List (RawJson → RawJson) → List RawJson → List RawJson
  | change :: changes, item :: rest => change item :: changeEach changes rest
  | _, rest => rest

/-- Changes the fields of a record, each in its own way, and blanks what it does not know. -/
def changeFields (fields : List (String × (RawJson → RawJson))) : RawJson → RawJson
  | .object members =>
    .object (members.map fun (key, value) =>
      match key.bind (List.lookup · fields) with
      | some change => (key, change value)
      | none => (key, .null))
  | .array items => .array (changeEach (fields.map (·.2)) items)
  | json => json

/-- Changes the values of all members of an object in one way. -/
def changeValues (change : RawJson → RawJson) : RawJson → RawJson
  | .object members => .object (members.map fun (key, value) => (key, change value))
  | json => json

end RawJson

namespace Document
open RawJson

/-- Keeps a part as it is. -/
def kept (json : RawJson) : RawJson := json

/-- Blanks all members that a document does not know, outside its steps. -/
def blankUnknown : RawJson → RawJson :=
  let binding := changeFields (Variable.fieldNames.map (·, kept))
  changeFields [
    ("meta", changeFields (DocumentMeta.fieldNames.map (·, kept))),
    ("data", changeFields [("steps", kept), ("variables", changeValues binding)])]

/-- Reads a text as a document, which need not be valid. -/
def decode? (text : String) : Option Document := do
  let raw ← RawJson.ofText? text
  let json ← (blankUnknown raw).value? depthLimit
  ofJson? json

/-- Reads a text as a valid document. -/
def read (text : String) : Except DocumentError Document :=
  match decode? text with
  | none => .error .malformed
  | some document =>
    match document.violation? with
    | some violation => .error violation
    | none => .ok document

end Document

end DesktopAutomation
