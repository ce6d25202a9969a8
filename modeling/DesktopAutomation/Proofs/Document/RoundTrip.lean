import DesktopAutomation.Proofs.Document.Validity
import DesktopAutomation.Proofs.Environment.RoundTrip
import DesktopAutomation.Proofs.Timestamp.RoundTrip

/-! Documents and their texts. What the text of a document reads as is told for every document, and
exactly when it is the document again. A document that was read nests no deeper than its text did,
so its own text is read as well.
-/

namespace DesktopAutomation

namespace RawJson

/-- A change that makes nothing nest deeper. -/
def Shallow (change : RawJson → RawJson) : Prop := ∀ raw, (change raw).depth ≤ raw.depth

theorem itemsDepth_le_iff {items : List RawJson} {limit : Nat}
    : itemsDepth items ≤ limit ↔ ∀ item ∈ items, item.depth ≤ limit := by
  induction items with
  | nil => simp [itemsDepth]
  | cons first rest ih => rw [itemsDepth, Nat.max_le, ih, List.forall_mem_cons]

theorem membersDepth_le_iff {members : List (Option String × RawJson)} {limit : Nat}
    : membersDepth members ≤ limit ↔ ∀ member ∈ members, member.2.depth ≤ limit := by
  induction members with
  | nil => simp [membersDepth]
  | cons first rest ih => rw [membersDepth, Nat.max_le, ih, List.forall_mem_cons]

theorem itemsDepth_changeEach_le {changes : List (RawJson → RawJson)}
    (shallow : ∀ change ∈ changes, Shallow change) (items : List RawJson)
    : itemsDepth (changeEach changes items) ≤ itemsDepth items := by
  induction changes generalizing items with
  | nil => cases items <;> exact Nat.le_refl _
  | cons change changes ih =>
      obtain ⟨here, behind⟩ := List.forall_mem_cons.mp shallow
      cases items with
      | nil => exact Nat.le_refl _
      | cons item rest =>
          have first := here item
          have others := ih behind rest
          simp only [changeEach, itemsDepth]
          omega

theorem membersDepth_map_le {change : Option String × RawJson → Option String × RawJson}
    {members : List (Option String × RawJson)}
    (shallow : ∀ member ∈ members, (change member).2.depth ≤ member.2.depth)
    : membersDepth (members.map change) ≤ membersDepth members := by
  refine membersDepth_le_iff.mpr (List.forall_mem_map.mpr fun member isMember => ?_)
  exact Nat.le_trans (shallow member isMember) (membersDepth_le_iff.mp (Nat.le_refl _) _ isMember)

/-- Changing and blanking fields makes nothing nest deeper. -/
theorem shallow_changeFields {fields : List (String × (RawJson → RawJson))}
    (shallow : ∀ field ∈ fields, Shallow field.2)
    : Shallow (changeFields fields) := by
  intro raw
  cases raw with
  | object members =>
      rw [changeFields, depth, depth]
      refine Nat.succ_le_succ (membersDepth_map_le fun (key, value) _ => ?_)
      cases known : key.bind (List.lookup · fields) with
      | none => simp [known, depth]
      | some change =>
          obtain ⟨name, _, found⟩ := Option.bind_eq_some_iff.mp known
          obtain ⟨before, behind, rfl, _⟩ := List.lookup_eq_some_iff.mp found
          simpa [known] using shallow (name, change) (by simp) value
  | array items =>
      rw [changeFields, depth, depth]
      exact Nat.succ_le_succ
        (itemsDepth_changeEach_le (List.forall_mem_map.mpr shallow) items)
  | _ => exact Nat.le_refl _

theorem shallow_changeValues {change : RawJson → RawJson} (shallow : Shallow change)
    : Shallow (changeValues change) := by
  intro raw
  cases raw with
  | object members =>
      rw [changeValues, depth, depth]
      exact Nat.succ_le_succ (membersDepth_map_le fun member _ => shallow member.2)
  | _ => exact Nat.le_refl _

end RawJson

namespace Document
open Json RawJson

theorem blankUnknown_shallow : Shallow blankUnknown := by
  have same : Shallow kept := fun _ => Nat.le_refl _
  have fields (names : List String) : Shallow (changeFields (names.map (·, kept))) :=
    shallow_changeFields (List.forall_mem_map.mpr fun _ _ => same)
  refine shallow_changeFields
    (List.forall_mem_cons.mpr ⟨fields _, List.forall_mem_singleton.mpr ?_⟩)
  refine shallow_changeFields (List.forall_mem_cons.mpr ⟨same, List.forall_mem_singleton.mpr ?_⟩)
  exact shallow_changeValues (fields _)

/-- A printed document holds nothing that a document does not know. -/
theorem blankUnknown_toJson (document : Document)
    : blankUnknown document.toJson.reread = document.toJson.reread := by
  have bindings
      : changeValues (changeFields (Variable.fieldNames.map (·, kept)))
          document.environment.toJson.reread
        = document.environment.toJson.reread := by
    rw [Environment.toJson, reread, rereadMembers_eq_map, changeValues]
    simp only [List.map_map]
    exact congrArg RawJson.object (List.map_congr_left fun entry _ => rfl)
  show RawJson.object [(some "meta", document.head.toJson.reread), (some "data", .object [
      (some "steps", document.steps.toJson.reread),
      (some "variables", changeValues (changeFields (Variable.fieldNames.map (·, kept)))
        document.environment.toJson.reread)])] = _
  rw [bindings]
  rfl

/-- The form of a document with changed numbers is read part by part; its steps hold integers only,
which do not change.
-/
theorem ofJson?_mapNumbers {change : JsonNumber → JsonNumber}
    (integral : ∀ number, number.integer?.isSome = true → change number = number)
    (document : Document)
    : ofJson? (document.toJson.mapNumbers change)
      = (Environment.ofJson? (document.environment.toJson.mapNumbers change)).map fun environment =>
          { document with environment := environment } := by
  obtain ⟨⟨title, createdAt⟩, steps, environment⟩ := document
  have stepsKept : steps.toJson.mapNumbers change = steps.toJson :=
    (mapNumbers_eq_self_iff ..).mpr fun number member => integral number (by
      rw [StepTree.toJson, numbers] at member
      exact Step.integral_bodyToJson steps.steps number member)
  have headRead
      : DocumentMeta.ofJson? (DocumentMeta.toJson ⟨title, createdAt⟩)
        = some ⟨title, createdAt⟩ := by
    have fields
        : (DocumentMeta.toJson ⟨title, createdAt⟩).fields? DocumentMeta.fieldNames
          = some [("title", .string title), ("createdAt", .string createdAt.text)] := rfl
    simp [DocumentMeta.ofJson?, fields, required?, string?, Timestamp.ofText?_text]
  have fields
      : ((Document.toJson ⟨⟨title, createdAt⟩, steps, environment⟩).mapNumbers change).fields?
            fieldNames
        = some [("meta", DocumentMeta.toJson ⟨title, createdAt⟩), ("data", .object [
            ("steps", steps.toJson.mapNumbers change),
            ("variables", environment.toJson.mapNumbers change)])] := rfl
  have data (steps bindings : Json)
      : (Json.object [("steps", steps), ("variables", bindings)]).fields? dataFieldNames
        = some [("steps", steps), ("variables", bindings)] := rfl
  rw [ofJson?, fields]
  cases environmentRead : Environment.ofJson? (environment.toJson.mapNumbers change) <;>
    simp [required?, data, headRead, stepsKept, StepTree.ofJson?_toJson, environmentRead]

/-- The numbers of a printed document are integers and those of its variables. -/
theorem forall_numbers_toJson_iff (document : Document) {holds : JsonNumber → Prop}
    (integral : ∀ number, number.integer?.isSome = true → holds number)
    : (∀ number ∈ document.toJson.numbers, holds number)
      ↔ ∀ number ∈ document.environment.numbers, holds number := by
  have parts
      : document.toJson.numbers
        = document.steps.toJson.numbers ++ document.environment.toJson.numbers := by
    simp [toJson, DocumentMeta.toJson, numbers, membersNumbers]
  have steps : ∀ number ∈ document.steps.toJson.numbers, holds number := by
    rw [StepTree.toJson, numbers]
    exact fun number member =>
      integral number (Step.integral_bodyToJson document.steps.steps number member)
  rw [parts, List.forall_mem_append,
    Environment.forall_numbers_toJson_iff _ fun word => integral (.natural word) rfl]
  exact and_iff_right steps

/-- The text of a document decodes to the document exactly if it nests no deeper than JSON texts may
and the numbers in its variables read back as themselves.
-/
theorem decode?_print_iff {document : Document} (stored : document.environment.Stored)
    : decode? document.print = some document
      ↔ document.toJson.depth ≤ depthLimit
        ∧ ∀ number ∈ document.environment.numbers, number.reread? = some number := by
  have readable
      : (∀ number ∈ document.toJson.numbers, number.reread?.isSome = true)
        ↔ ∀ number ∈ document.environment.numbers, number.reread?.isSome = true :=
    forall_numbers_toJson_iff document fun number isInteger => by
      rw [JsonNumber.reread?_of_integer isInteger, Option.isSome_some]
  have same
      : ofJson? (document.toJson.mapNumbers JsonNumber.reread) = some document
        ↔ ∀ number ∈ document.environment.numbers, number.reread = number := by
    rw [ofJson?_mapNumbers fun _ => JsonNumber.reread_of_integer, Option.map_eq_some_iff,
      ← stored.ofJson?_mapNumbers_eq_self_iff fun word => JsonNumber.reread_of_integer rfl]
    constructor
    · rintro ⟨environment, read, rebuilt⟩
      rw [read, ← rebuilt]
    · intro read
      exact ⟨document.environment, read, rfl⟩
  rw [decode?, print, pretty, ofText?_print JsonLayout.indented_blank, Option.bind_eq_bind,
    Option.bind_some, blankUnknown_toJson, value?_reread]
  simp only [JsonNumber.survives_iff]
  split
  · next sound =>
      obtain ⟨deep, numbers⟩ := sound
      rw [Option.bind_eq_bind, Option.bind_some, same]
      constructor
      · intro kept
        refine ⟨deep, fun number member => ⟨?_, kept number member⟩⟩
        exact readable.mp numbers number member
      · rintro ⟨_, survive⟩ number member
        exact (survive number member).2
  · next unsound =>
      constructor
      · intro none
        simp at none
      · rintro ⟨deep, survive⟩
        apply absurd _ unsound
        exact ⟨deep, readable.mpr fun number member => (survive number member).1⟩

/-- The text of a document reads as the document exactly if the document is valid, nests no deeper
than JSON texts may, and the numbers in its variables read back as themselves.
-/
theorem read_print_iff {document : Document} (stored : document.environment.Stored)
    : read document.print = .ok document
      ↔ document.Valid
        ∧ document.toJson.depth ≤ depthLimit
        ∧ ∀ number ∈ document.environment.numbers, number.reread? = some number := by
  rw [read_eq_ok_iff, decode?_print_iff stored, and_comm]

/-- A document is read part by part. -/
theorem parts_of_ofJson? {json : Json} {document : Document} (isRead : ofJson? json = some document)
    : ∃ fields data dataFields steps bindings,
        json.fields? fieldNames = some fields
        ∧ required? "data" fields = some data
        ∧ data.fields? dataFieldNames = some dataFields
        ∧ required? "steps" dataFields = some steps
        ∧ StepTree.ofJson? steps = some document.steps
        ∧ required? "variables" dataFields = some bindings
        ∧ Environment.ofJson? bindings = some document.environment := by
  simp only [ofJson?, Option.bind_eq_bind, Option.bind_eq_some_iff] at isRead
  obtain ⟨fields, isRecord, data, isData, dataFields, dataRecord, _, _, _, _, steps, isSteps, tree,
    treeRead, bindings, isBindings, environment, environmentRead, made⟩ := isRead
  obtain rfl := Option.some.inj made
  exact ⟨fields, data, dataFields, steps, bindings, isRecord, isData, dataRecord, isSteps,
    treeRead, isBindings, environmentRead⟩

/-- A part of the data of a text, as it is written; what a document does not know is blank. -/
def writtenPart? (name : String) (text : String) : Option Json := do
  let json ← (blankUnknown (← RawJson.ofText? text)).value? depthLimit
  let data ← (← required? "data" (← json.fields? fieldNames)).fields? dataFieldNames
  required? name data

/-- The data of a document are read from the parts that are written. -/
theorem written_of_decode? {text : String} {document : Document}
    (decoded : decode? text = some document)
    : ∃ steps bindings,
        writtenPart? "steps" text = some steps
        ∧ StepTree.ofJson? steps = some document.steps
        ∧ writtenPart? "variables" text = some bindings
        ∧ Environment.ofJson? bindings = some document.environment := by
  simp only [decode?, Option.bind_eq_bind, Option.bind_eq_some_iff] at decoded
  obtain ⟨raw, isText, json, valued, isRead⟩ := decoded
  obtain ⟨fields, data, dataFields, steps, bindings, isRecord, isData, dataRecord, isSteps,
    treeRead, isBindings, environmentRead⟩ := parts_of_ofJson? isRead
  refine ⟨steps, bindings, ?_, treeRead, ?_, environmentRead⟩
  · simp [writtenPart?, isText, valued, isRecord, isData, dataRecord, isSteps]
  · simp [writtenPart?, isText, valued, isRecord, isData, dataRecord, isBindings]

theorem stored_of_decode? {text : String} {document : Document}
    (decoded : decode? text = some document)
    : document.environment.Stored := by
  obtain ⟨_, _, _, _, _, environmentRead⟩ := written_of_decode? decoded
  exact Environment.stored_of_ofJson? environmentRead

/-- A document is written no deeper than it was read. -/
theorem depth_toJson_le {json : Json} {document : Document}
    (isRead : ofJson? json = some document)
    : document.toJson.depth ≤ json.depth := by
  obtain ⟨fields, data, dataFields, steps, bindings, isRecord, isData, dataRecord, isSteps,
    treeRead, isBindings, environmentRead⟩ := parts_of_ofJson? isRead
  have record := depth_of_fields? isRecord
  have dataInside := depth_of_required? isData
  have dataDepth := depth_of_fields? dataRecord
  have stepsInside := depth_of_required? isSteps
  have treeDepth := StepTree.depth_toJson_le treeRead
  have bindingsInside := depth_of_required? isBindings
  have environmentDepth := Environment.depth_toJson_le environmentRead
  simp only [toJson, DocumentMeta.toJson, Json.depth, Json.membersDepth]
  omega

/-- A document nests no deeper than the text it was decoded from, and no deeper than JSON texts may.
-/
theorem depth_of_decode? {text : String} {document : Document}
    (decoded : decode? text = some document)
    : document.toJson.depth ≤ depthLimit
      ∧ ∃ raw, RawJson.ofText? text = some raw ∧ document.toJson.depth ≤ raw.depth := by
  simp only [decode?, Option.bind_eq_bind, Option.bind_eq_some_iff] at decoded
  obtain ⟨raw, isText, json, valued, isRead⟩ := decoded
  obtain ⟨same, limited⟩ := depth_of_value? valued
  have blanked := blankUnknown_shallow raw
  have written := depth_toJson_le isRead
  exact ⟨by omega, raw, isText, by omega⟩

/-- A document that was read, and holds no doubles, is read again from its own text, which nests no
deeper than the text before.
-/
theorem read_print_of_read {text : String} {document : Document}
    (accepted : read text = .ok document)
    (noDoubles : ∀ number ∈ document.environment.numbers, number.integer?.isSome = true)
    : read document.print = .ok document
      ∧ ∃ raw printed,
          RawJson.ofText? text = some raw
          ∧ RawJson.ofText? document.print = some printed
          ∧ printed.depth ≤ raw.depth := by
  obtain ⟨decoded, valid⟩ := (read_eq_ok_iff ..).mp accepted
  obtain ⟨limited, raw, isText, shallow⟩ := depth_of_decode? decoded
  have survives := fun number member => JsonNumber.reread?_of_integer (noDoubles number member)
  have again : read document.print = .ok document :=
    (read_print_iff (stored_of_decode? decoded)).mpr ⟨valid, limited, survives⟩
  have printed : RawJson.ofText? document.print = some document.toJson.reread :=
    ofText?_print JsonLayout.indented_blank 0 document.toJson
  refine ⟨again, raw, document.toJson.reread, isText, printed, ?_⟩
  rw [depth_reread]
  exact shallow

/-- A text with records as lists, a field that no document knows, and an upper case name. -/
def rearrangedText : String :=
  "\x7b\"data\":[[\x7b\"type\":\"sleep\",\"data\":\x7b\"time\":5\x7d,\"id\":1\x7d],"
    ++ "\x7b\"N\":[1,\"list\",[7]]\x7d],"
    ++ "\"note\":[[0.5]],\"meta\":[\"T\",\"2024-02-29T12:00:00+01:00\"]\x7d"

theorem read_print_of_rearrangedText
    : ∃ document,
        read rearrangedText = .ok document
        ∧ read document.print = .ok document
        ∧ ∃ raw printed,
            RawJson.ofText? rearrangedText = some raw
            ∧ RawJson.ofText? document.print = some printed
            ∧ printed.depth ≤ raw.depth := by
  have readable
      : (match read rearrangedText with
        | .ok document => document.environment.numbers.all (·.integer?.isSome)
        | .error _ => false) = true := by
    decide +kernel
  cases accepted : read rearrangedText with
  | error _ => simp [accepted] at readable
  | ok document =>
      rw [accepted] at readable
      exact ⟨document, rfl, read_print_of_read accepted (List.all_eq_true.mp readable)⟩

end Document

end DesktopAutomation
