import DesktopAutomation.Environment
import DesktopAutomation.Json.Printer
import DesktopAutomation.Text.Slug
import DesktopAutomation.Timestamp.Reading

/-!
Automation documents: a title, the time of creation, the steps and the variables; their JSON form
and the name of the file that holds one.
-/

namespace DesktopAutomation

/-- What stands at the head of a document. -/
structure DocumentMeta where
  title : String
  createdAt : Timestamp
deriving DecidableEq

/-- An automation as a document holds it. -/
structure Document where
  head : DocumentMeta
  steps : StepTree
  environment : Environment

-----------------------------------------------------------------------------------------
-- File names
-----------------------------------------------------------------------------------------

/-- The name of the file for a title: its slug, or a name that stands for all titles without one. -/
def fileNameOf (title : String) : String :=
  let slug := Text.slugify title
  (if slug = "" then "automation" else slug) ++ ".json"

/-- The name of the file that holds a document. -/
def Document.fileName (document : Document) : String := fileNameOf document.head.title

-----------------------------------------------------------------------------------------
-- JSON form
-----------------------------------------------------------------------------------------

namespace DocumentMeta

/-- The fields of a head in their order. -/
def fieldNames : List String := ["title", "createdAt"]

/-- The JSON form of a head. -/
def toJson (head : DocumentMeta) : Json :=
  .object [("title", .string head.title), ("createdAt", .string head.createdAt.text)]

/-- Reads the JSON form of a head. -/
def ofJson? (json : Json) : Option DocumentMeta := do
  let fields ← json.fields? fieldNames
  return {
    title := ← (← Json.required? "title" fields).string?
    createdAt := ← Timestamp.ofText? (← (← Json.required? "createdAt" fields).string?) }

end DocumentMeta

namespace Document

/-- The fields of a document in their order. -/
def fieldNames : List String := ["meta", "data"]

/-- The fields of the data of a document in their order. -/
def dataFieldNames : List String := ["steps", "variables"]

/-- The JSON form of a document. -/
def toJson (document : Document) : Json :=
  .object [
    ("meta", document.head.toJson),
    ("data", .object [
      ("steps", document.steps.toJson),
      ("variables", document.environment.toJson)])]

/-- Reads the JSON form of a document. -/
def ofJson? (json : Json) : Option Document := do
  let fields ← json.fields? fieldNames
  let data ← (← Json.required? "data" fields).fields? dataFieldNames
  return {
    head := ← DocumentMeta.ofJson? (← Json.required? "meta" fields)
    steps := ← StepTree.ofJson? (← Json.required? "steps" data)
    environment := ← Environment.ofJson? (← Json.required? "variables" data) }

/-- The text of a document. -/
def print (document : Document) : String := document.toJson.pretty

-----------------------------------------------------------------------------------------
-- Sameness
-----------------------------------------------------------------------------------------

/-- Two lists of named variables are the same, but for the spelling of zeros. -/
def sameEntries : List (String × Variable) → List (String × Variable) → Bool
  | [], [] => true
  | (m, a) :: as, (n, b) :: bs => m == n && a.same b && sameEntries as bs
  | _, _ => false

/-- Two documents are the same, but for the spelling of zeros in their variables. -/
def same (a b : Document) : Bool :=
  decide (a.head = b.head) && decide (a.steps = b.steps)
    && sameEntries a.environment.bindings.entries b.environment.bindings.entries

end Document

end DesktopAutomation
