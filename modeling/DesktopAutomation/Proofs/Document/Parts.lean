import DesktopAutomation.Proofs.Document.RoundTrip
import DesktopAutomation.Proofs.Step.Faulty

/-! The parts of a document's JSON. Each is read from the fields that it knows and from nothing
else, so a part whose known fields carry over, with values that are read alike, is read alike itself.
-/

namespace DesktopAutomation

-----------------------------------------------------------------------------------------
-- Fields that carry over
-----------------------------------------------------------------------------------------

namespace Json

/-- A field of some members is a field of others, with a related value, and a name that no member
has is no name of the others either.
-/
structure Carries (related : Json → Json → Prop) (name : String)
    (members others : List (String × Json)) : Prop where
  field
    : ∀ value, Field members name value → ∃ other, Field others name other ∧ related value other
  absent : members.filter (·.1 == name) = [] → others.filter (·.1 == name) = []

variable {related : Json → Json → Prop} {name : String}

/-- Members in another order have the same fields. -/
theorem Carries.of_perm (refl : ∀ value, related value value)
    {members others : List (String × Json)} (same : members.Perm others)
    : Carries related name members others where
  field value isField := by
    have sameNamed := same.filter (·.1 == name)
    rw [field_iff_filter.mp isField] at sameNamed
    exact ⟨value, field_iff_filter.mpr sameNamed.symm.eq_singleton, refl value⟩
  absent none := by
    have sameNamed := same.filter (·.1 == name)
    rw [none] at sameNamed
    exact sameNamed.nil_eq.symm

/-- A member with another name changes no field. -/
theorem Carries.of_cons (refl : ∀ value, related value value) {members : List (String × Json)}
    {first : String × Json} (differs : first.1 ≠ name)
    : Carries related name members (first :: members) where
  field value isField := by
    refine ⟨value, field_iff_filter.mpr ?_, refl value⟩
    rw [List.filter_cons_of_neg (by simpa using differs)]
    exact field_iff_filter.mp isField
  absent none := by rwa [List.filter_cons_of_neg (by simpa using differs)]

/-- A new value of one member changes no field but its own. -/
theorem Carries.of_replaced (refl : ∀ value, related value value)
    {before after : List (String × Json)} {own : String} {value other : Json}
    (alike : own = name → related value other)
    : Carries related name (before ++ (own, value) :: after)
        (before ++ (own, other) :: after) := by
  by_cases same : own = name
  · subst same
    refine ⟨fun held isField => ?_, fun none => ?_⟩
    · simp only [field_iff_filter, List.filter_append, List.filter_cons, beq_self_eq_true, if_true,
        List.append_eq_singleton_iff, List.cons_ne_nil, and_false, or_false, List.cons.injEq,
        Prod.mk.injEq, true_and] at isField ⊢
      obtain ⟨noneBefore, rfl, noneAfter⟩ := isField
      exact ⟨other, ⟨noneBefore, rfl, noneAfter⟩, alike rfl⟩
    · simp at none
  · refine ⟨fun held isField => ⟨held, ?_, refl held⟩, fun none => ?_⟩
    · simpa [field_iff_filter, List.filter_append, List.filter_cons, same] using isField
    · simpa [List.filter_append, List.filter_cons, same] using none

end Json

-----------------------------------------------------------------------------------------
-- Parts
-----------------------------------------------------------------------------------------

open Json

/-- What a part of a document's JSON stands for. The data of a step are told by the name of its
type; a leaf has no parts of its own.
-/
inductive Part
  | document
  | head
  | data
  | bindings
  | binding
  | steps
  | step
  | payload (typeName : String)
  | condition
  | side
  | leaf

/-- The part that a field of a step holds. -/
def FieldKind.part : FieldKind → Part
  | .condition => .condition
  | .steps => .steps
  | _ => .leaf

namespace Part

/-- The fields that the data of a step know, each with the part that it holds. -/
def payloadFields (typeName : String) : List (String × Part) :=
  ((fieldsOf? typeName).getD []).map fun (name, kind) => (name, kind.part)

/-- The fields that a record knows, each with the part that it holds. Those of a step and of a side
depend on the value of one of them.
-/
def fields? (valueOf? : String → Option Json) : Part → Option (List (String × Part))
  | .document => some [("meta", .head), ("data", .data)]
  | .head => some [("title", .leaf), ("createdAt", .leaf)]
  | .data => some [("steps", .steps), ("variables", .bindings)]
  | .binding => some [("ownerId", .leaf), ("type", .leaf), ("value", .leaf)]
  | .step => do
    let typeName ← (← valueOf? "type").name? .withinStep
    return [("id", .leaf), ("type", .leaf), ("data", .payload typeName)]
  | .payload typeName => some (payloadFields typeName)
  | .condition => some [("leftSide", .side), ("operator", .leaf), ("rightSide", .side)]
  | .side => do
    let origin ← ConditionSide.Origin.ofJson? .withinStep (← valueOf? "origin")
    return [("origin", .leaf), (origin.fieldName, .leaf)]
  | _ => none

/-- The part that a member of an object holds: any variable is one, whatever its name. -/
def memberPart? (valueOf? : String → Option Json) : Part → String → Option Part
  | .bindings, _ => some .binding
  | part, name => (part.fields? valueOf?).bind (List.lookup name)

/-- The part that an item of an array is: a step, or a field of a record by its place. -/
def itemPart? : Part → Nat → Option Part
  | .steps, _ => some .step
  | .document, 0 => some .head
  | .document, 1 => some .data
  | .data, 0 => some .steps
  | .data, 1 => some .bindings
  | .condition, 0 => some .side
  | .condition, 2 => some .side
  | _, _ => none

end Part

/-- Reads the data of a document: its steps and its variables. -/
def Document.dataOfJson? (json : Json) : Option (StepTree × Environment) := do
  let fields ← json.fields? dataFieldNames
  return (← StepTree.ofJson? (← required? "steps" fields),
    ← Environment.ofJson? (← required? "variables" fields))

/-- A document is read from its head and its data, each for itself. -/
theorem Document.ofJson?_eq_some_iff {json : Json} {document : Document}
    : ofJson? json = some document
      ↔ ∃ fields head data,
          Record fieldNames json fields
          ∧ Field fields "meta" head
          ∧ DocumentMeta.ofJson? head = some document.head
          ∧ Field fields "data" data
          ∧ dataOfJson? data = some (document.steps, document.environment) := by
  simp only [ofJson?, dataOfJson?, Option.bind_eq_bind, Option.bind_eq_some_iff,
    fields?_eq_some_iff, required?_eq_some_iff]
  constructor
  · rintro ⟨fields, isRecord, data, isData, dataFields, dataRecord, head, isHead, headPart,
      headRead, steps, isSteps, tree, treeRead, bindings, isBindings, environment,
      environmentRead, made⟩
    obtain rfl := Option.some.inj made
    exact ⟨fields, head, data, isRecord, isHead, headRead, isData, dataFields, dataRecord, steps,
      isSteps, tree, treeRead, bindings, isBindings, environment, environmentRead, rfl⟩
  · rintro ⟨fields, head, data, isRecord, isHead, headRead, isData, dataFields, dataRecord, steps,
      isSteps, tree, treeRead, bindings, isBindings, environment, environmentRead, same⟩
    obtain ⟨rfl, rfl⟩ := Prod.mk.inj (Option.some.inj same)
    exact ⟨fields, isRecord, data, isData, dataFields, dataRecord, head, isHead, document.head,
      headRead, steps, isSteps, document.steps, treeRead, bindings, isBindings,
      document.environment, environmentRead, rfl⟩

/-- Reads the data of a step with an id and a type. -/
def Step.ofPayload? (id : StepId) (typeName : String) (json : Json) : Option Step :=
  match Statement.ofJson? typeName json with
  | some stmt => (bodyOfData? json).map (.statement id stmt)
  | none => (Action.ofJson? typeName json).map (.action id)

theorem Step.ofPayload?_eq_some_iff {id : StepId} {typeName : String} {json : Json} {step : Step}
    : ofPayload? id typeName json = some step
      ↔ match Statement.ofJson? typeName json with
        | some stmt => (bodyOfData? json).map (.statement id stmt) = some step
        | none => (Action.ofJson? typeName json).map (.action id) = some step := by
  rw [ofPayload?]
  split <;> rfl

-----------------------------------------------------------------------------------------
-- Parts that are read alike
-----------------------------------------------------------------------------------------

/-- Whatever is read from one value is read from another. -/
def Follows {α : Type} (read? : Json → Option α) (json other : Json) : Prop :=
  ∀ result, read? json = some result → read? other = some result

namespace Part

/-- Whatever a part is read as, another is read as well. -/
def Alike : Part → Json → Json → Prop
  | .document => Follows Document.ofJson?
  | .head => Follows DocumentMeta.ofJson?
  | .data => Follows Document.dataOfJson?
  | .bindings => Follows Environment.ofJson?
  | .binding => Follows Variable.ofJson?
  | .steps => Follows Step.listOfJson?
  | .step => Follows Step.ofJson?
  | .payload typeName => fun json other => ∀ id, Follows (Step.ofPayload? id typeName) json other
  | .condition => Follows (Condition.ofJson? .withinStep)
  | .side => Follows (ConditionSide.ofJson? .withinStep)
  | .leaf => Eq

theorem alike_refl (part : Part) (json : Json) : part.Alike json json := by
  cases part <;> simp [Alike, Follows]

/-- The fields of one record carry over to another, with values that are read alike. -/
def CarriesAll (known : List (String × Part)) (fields others : List (String × Json)) : Prop :=
  ∀ name inner, known.lookup name = some inner → Carries inner.Alike name fields others

variable {json other : Json} {fields others : List (String × Json)} {known : List (String × Part)}

/-- A leaf carries over as it is. -/
theorem CarriesAll.leaf (carries : CarriesAll known fields others) {name : String} {value : Json}
    (isField : Field fields name value) (isLeaf : known.lookup name = some .leaf)
    : Field others name value := by
  obtain ⟨_, isOther, rfl⟩ := (carries name .leaf isLeaf).field value isField
  exact isOther

theorem document_alike (isOther : Record Document.fieldNames other others)
    (isRecord : Record Document.fieldNames json fields)
    (carries : CarriesAll [("meta", .head), ("data", .data)] fields others)
    : Alike .document json other := by
  intro document read
  obtain ⟨_, head, data, isRead, isHead, headRead, isData, dataRead⟩ :=
    Document.ofJson?_eq_some_iff.mp read
  obtain rfl := isRead.unique isRecord
  obtain ⟨otherHead, isOtherHead, headAlike⟩ := (carries "meta" .head rfl).field head isHead
  obtain ⟨otherData, isOtherData, dataAlike⟩ := (carries "data" .data rfl).field data isData
  exact Document.ofJson?_eq_some_iff.mpr ⟨others, otherHead, otherData, isOther, isOtherHead,
    headAlike _ headRead, isOtherData, dataAlike _ dataRead⟩

theorem head_alike (isOther : Record DocumentMeta.fieldNames other others)
    (isRecord : Record DocumentMeta.fieldNames json fields)
    (carries : CarriesAll [("title", .leaf), ("createdAt", .leaf)] fields others)
    : Alike .head json other := by
  intro head read
  simp only [DocumentMeta.ofJson?, Option.bind_eq_bind, Option.bind_eq_some_iff,
    fields?_eq_some_iff, required?_eq_some_iff] at read ⊢
  obtain ⟨_, isRead, title, isTitle, text, isText, createdAt, isCreatedAt, time⟩ := read
  obtain rfl := isRead.unique isRecord
  exact ⟨_, isOther, title, carries.leaf isTitle rfl, text, isText, createdAt,
    carries.leaf isCreatedAt rfl, time⟩

theorem data_alike (isOther : Record Document.dataFieldNames other others)
    (isRecord : Record Document.dataFieldNames json fields)
    (carries : CarriesAll [("steps", .steps), ("variables", .bindings)] fields others)
    : Alike .data json other := by
  intro parts read
  simp only [Document.dataOfJson?, Option.bind_eq_bind, Option.bind_eq_some_iff,
    fields?_eq_some_iff, required?_eq_some_iff, StepTree.ofJson?, Option.map_eq_some_iff] at read ⊢
  obtain ⟨_, isRead, steps, isSteps, tree, ⟨listed, stepsRead, isTree⟩, bindings, isBindings,
    environment, environmentRead, made⟩ := read
  obtain rfl := isRead.unique isRecord
  obtain ⟨otherSteps, isOtherSteps, stepsAlike⟩ := (carries "steps" .steps rfl).field steps isSteps
  obtain ⟨otherBindings, isOtherBindings, bindingsAlike⟩ :=
    (carries "variables" .bindings rfl).field bindings isBindings
  exact ⟨_, isOther, otherSteps, isOtherSteps, tree, ⟨listed, stepsAlike _ stepsRead, isTree⟩,
    otherBindings, isOtherBindings, environment, bindingsAlike _ environmentRead, made⟩

theorem binding_alike (isOther : Record Variable.fieldNames other others)
    (isRecord : Record Variable.fieldNames json fields)
    (carries : CarriesAll [("ownerId", .leaf), ("type", .leaf), ("value", .leaf)] fields others)
    : Alike .binding json other := by
  intro binding read
  simp only [Variable.ofJson?, Option.bind_eq_bind, Option.bind_eq_some_iff, fields?_eq_some_iff,
    required?_eq_some_iff] at read ⊢
  obtain ⟨_, isRead, owner, isOwner, id, idRead, kind, isKind, made⟩ := read
  obtain rfl := isRead.unique isRecord
  have isOtherKind : optional? "type" others = some kind := by
    cases kind with
    | none =>
        rw [optional?_eq_some_none_iff] at isKind ⊢
        exact (carries "type" .leaf rfl).absent isKind
    | some kind =>
        rw [optional?_eq_some_some_iff] at isKind ⊢
        exact carries.leaf isKind rfl
  refine ⟨_, isOther, owner, carries.leaf isOwner rfl, id, idRead, kind, isOtherKind, ?_⟩
  -- the value is read behind the kind, be it written or not
  cases kind <;> simp only [Option.bind_eq_some_iff, required?_eq_some_iff] at made ⊢ <;>
    obtain ⟨name, kindRead, value, isValue, made⟩ := made <;>
    exact ⟨name, kindRead, value, carries.leaf isValue rfl, made⟩

theorem condition_alike (isOther : Record Condition.fieldNames other others)
    (isRecord : Record Condition.fieldNames json fields)
    (carries
      : CarriesAll [("leftSide", .side), ("operator", .leaf), ("rightSide", .side)] fields others)
    : Alike .condition json other := by
  intro condition read
  simp only [Condition.ofJson?, Option.bind_eq_bind, Option.bind_eq_some_iff, fields?_eq_some_iff,
    required?_eq_some_iff] at read ⊢
  obtain ⟨_, isRead, left, isLeft, leftSide, leftRead, operator, isOperator, comparison,
    operatorRead, right, isRight, rightSide, rightRead, made⟩ := read
  obtain rfl := isRead.unique isRecord
  obtain ⟨otherLeft, isOtherLeft, leftAlike⟩ := (carries "leftSide" .side rfl).field left isLeft
  obtain ⟨otherRight, isOtherRight, rightAlike⟩ :=
    (carries "rightSide" .side rfl).field right isRight
  exact ⟨_, isOther, otherLeft, isOtherLeft, leftSide, leftAlike _ leftRead, operator,
    carries.leaf isOperator rfl, comparison, operatorRead, otherRight, isOtherRight, rightSide,
    rightAlike _ rightRead, made⟩

/-- A field that holds a value holds it still if what stands there is read alike. -/
theorem written_of_alike {held : FieldValue} (written : held.Written json)
    (alike : held.kind.part.Alike json other)
    : held.Written other := by
  cases held with
  | condition condition =>
      have read := Condition.ofJson?_eq_some_iff.mpr written
      exact Condition.ofJson?_eq_some_iff.mp (alike _ read)
  | _ =>
      obtain rfl : json = other := alike
      exact written

theorem partsWritten_of_carries {parts : List (String × FieldValue)}
    (written : PartsWritten parts fields) (carries : CarriesAll known fields others)
    (isKnown : ∀ part ∈ parts, known.lookup part.1 = some part.2.kind.part)
    : PartsWritten parts others := by
  intro part listed
  obtain ⟨value, isField, valueWritten⟩ := written part listed
  obtain ⟨other, isOther, alike⟩ :=
    (carries part.1 part.2.kind.part (isKnown part listed)).field value isField
  exact ⟨other, isOther, written_of_alike valueWritten alike⟩

theorem lookup_action (act : Action)
    : ∀ part ∈ act.parts,
        (payloadFields act.typeName).lookup part.1 = some part.2.kind.part := by
  cases act <;>
    simp [Action.parts, Action.typeName, payloadFields, fieldsOf?, FieldValue.kind,
      NameMap.lookup_cons_eq]

theorem lookup_statement (stmt : Statement)
    : ∀ part ∈ stmt.parts,
        (payloadFields stmt.typeName).lookup part.1 = some part.2.kind.part := by
  cases stmt <;>
    simp [Statement.parts, Statement.typeName, payloadFields, fieldsOf?, FieldValue.kind,
      NameMap.lookup_cons_eq]

/-- Data that are an object hold its members, whatever their type. -/
theorem dataOf_object (typeName : String) (fields : List (String × Json))
    : DataOf typeName (.object fields) fields := by
  rw [DataOf]
  split
  · exact .object fields
  · rfl

/-- The data of a statement are an object. -/
theorem dataOf_statement {stmt : Statement} (isData : DataOf stmt.typeName json fields)
    : json = .object fields := by
  cases stmt <;> exact isData

theorem payload_alike {typeName : String} (isOther : DataOf typeName other others)
    (isData : DataOf typeName json fields)
    (carries : CarriesAll (payloadFields typeName) fields others)
    : Alike (.payload typeName) json other := by
  intro id step read
  rw [Step.ofPayload?] at read
  split at read
  · next stmt isStatement =>
      obtain ⟨body, bodyRead, rfl⟩ := Option.map_eq_some_iff.mp read
      obtain ⟨rfl, members, steps, rfl, isSteps, parts⟩ :=
        Statement.ofJson?_eq_some_iff.mp isStatement
      obtain rfl := Json.object.inj (dataOf_statement isData)
      obtain rfl := dataOf_statement isOther
      rw [Step.bodyOfData?, Step.bodyOfFields?_of_field isSteps] at bodyRead
      obtain ⟨otherSteps, isOtherSteps, stepsAlike⟩ :=
        (carries "steps" .steps (by cases stmt <;> rfl)).field steps isSteps
      have otherParts := partsWritten_of_carries parts carries (lookup_statement stmt)
      have otherStatement : Statement.ofJson? stmt.typeName (.object others) = some stmt :=
        Statement.ofJson?_eq_some_iff.mpr ⟨rfl, _, _, rfl, isOtherSteps, otherParts⟩
      rw [Step.ofPayload?, otherStatement]
      show (Step.bodyOfFields? others).map (Step.statement id stmt) = _
      rw [Step.bodyOfFields?_of_field isOtherSteps, stepsAlike _ bodyRead, Option.map_some]
  · next none =>
      obtain ⟨act, isAction, rfl⟩ := Option.map_eq_some_iff.mp read
      obtain ⟨rfl, members, isMembers, parts⟩ := Action.written_of_ofJson? isAction
      obtain rfl := isMembers.unique isData
      have otherParts := partsWritten_of_carries parts carries (lookup_action act)
      rw [Step.ofPayload?, Statement.ofJson?_of_action,
        Action.ofJson?_of_written isOther otherParts]
      rfl

section
variable {valueOf? : String → Option Json}
  (agrees : ∀ name value, Field fields name value → valueOf? name = some value)
include agrees

theorem step_alike (isKnown : fields? valueOf? .step = some known)
    (carries : CarriesAll known fields others)
    : Alike .step (.object fields) (.object others) := by
  intro step read
  obtain ⟨members, id, typeName, data, same, ⟨isId, ⟨type, isType, named⟩, isData⟩, made⟩ :=
    Step.ofJson?_eq_some_iff.mp read
  obtain rfl := Json.object.inj same
  obtain rfl : [("id", .leaf), ("type", .leaf), ("data", .payload typeName)] = known := by
    simpa [fields?, agrees _ _ isType, name?_eq_some_iff.mpr named] using isKnown
  obtain ⟨otherData, isOtherData, dataAlike⟩ :=
    (carries "data" (.payload typeName) rfl).field data isData
  exact Step.ofJson?_eq_some_iff.mpr ⟨others, id, typeName, otherData, rfl,
    ⟨carries.leaf isId rfl, ⟨type, carries.leaf isType rfl, named⟩, isOtherData⟩,
    Step.ofPayload?_eq_some_iff.mp (dataAlike id step (Step.ofPayload?_eq_some_iff.mpr made))⟩

theorem side_alike (isKnown : fields? valueOf? .side = some known)
    (carries : CarriesAll known fields others)
    : Alike .side (.object fields) (.object others) := by
  intro side read
  rw [ConditionSide.ofJson?_eq_some_iff] at read ⊢
  cases read with
  | object isOrigin written isHeld =>
      obtain rfl : [("origin", .leaf), (side.origin.fieldName, .leaf)] = known := by
        simpa [fields?, agrees _ _ isOrigin, ConditionSide.Origin.ofJson?_eq_some_iff.mpr written]
          using isKnown
      have isLeaf
          : [("origin", leaf), (side.origin.fieldName, leaf)].lookup side.origin.fieldName
            = some leaf := by
        cases side <;> rfl
      exact .object (carries.leaf isOrigin rfl) written (carries.leaf isHeld isLeaf)

end

/-- A record is read like another if all fields that it knows carry over. -/
theorem alike_of_carries {part : Part} {valueOf? : String → Option Json}
    (isKnown : part.fields? valueOf? = some known)
    (agrees
      : part = .step ∨ part = .side
        → ∀ name value, Field fields name value → valueOf? name = some value)
    (carries : CarriesAll known fields others)
    : part.Alike (.object fields) (.object others) := by
  cases part with
  | document => exact document_alike (.object _) (.object _) (Option.some.inj isKnown ▸ carries)
  | head => exact head_alike (.object _) (.object _) (Option.some.inj isKnown ▸ carries)
  | data => exact data_alike (.object _) (.object _) (Option.some.inj isKnown ▸ carries)
  | binding => exact binding_alike (.object _) (.object _) (Option.some.inj isKnown ▸ carries)
  | step => exact step_alike (agrees (.inl rfl)) isKnown carries
  | payload typeName =>
      exact payload_alike (dataOf_object typeName _) (dataOf_object typeName _)
        (Option.some.inj isKnown ▸ carries)
  | condition => exact condition_alike (.object _) (.object _) (Option.some.inj isKnown ▸ carries)
  | side => exact side_alike (agrees (.inr rfl)) isKnown carries
  | bindings | steps | leaf => simp [fields?] at isKnown

/-- The fields of a record carry over if one of them gets a value that is read alike. -/
theorem carriesAll_replaced (before : List (String × Json)) (name : String)
    (after : List (String × Json)) {inner : Part} (held : known.lookup name = some inner)
    (alike : inner.Alike json other)
    : CarriesAll known (before ++ (name, json) :: after) (before ++ (name, other) :: after) := by
  intro own part listed
  refine Carries.of_replaced part.alike_refl fun same => ?_
  subst same
  obtain rfl := Option.some.inj (held.symm.trans listed)
  exact alike

/-- Among the variables, one may be replaced by another that is read alike. -/
theorem bindings_alike {before after : List (String × Json)} {name : String}
    (alike : Alike .binding json other)
    : Alike .bindings (.object (before ++ (name, json) :: after))
        (.object (before ++ (name, other) :: after)) := by
  intro environment read
  simp only [Environment.ofJson?, members?, Option.bind_eq_bind, Option.bind_some,
    Option.bind_eq_some_iff, List.mapM_append, List.mapM_cons] at read ⊢
  obtain ⟨_, ⟨front, frontRead, _, ⟨_, ⟨binding, bindingRead, same⟩, behind, behindRead, rest⟩,
    whole⟩, made⟩ := read
  exact ⟨_, ⟨front, frontRead, _, ⟨_, ⟨binding, alike _ bindingRead, same⟩, behind, behindRead,
    rest⟩, whole⟩, made⟩

theorem known_of_memberPart? {part inner : Part} {valueOf? : String → Option Json} {name : String}
    (held : part.memberPart? valueOf? name = some inner)
    : (part = .bindings ∧ inner = .binding)
      ∨ ∃ known, part.fields? valueOf? = some known ∧ known.lookup name = some inner := by
  unfold memberPart? at held
  split at held
  · exact .inl ⟨rfl, (Option.some.inj held).symm⟩
  · exact .inr (Option.bind_eq_some_iff.mp held)

/-- An object is read like another if one of its parts is. -/
theorem alike_of_member {part inner : Part} {valueOf? : String → Option Json}
    {before after : List (String × Json)} {name : String}
    (held : part.memberPart? valueOf? name = some inner)
    (agrees
      : part = .step ∨ part = .side
        → ∀ own value,
            Field (before ++ (name, json) :: after) own value → valueOf? own = some value)
    (alike : inner.Alike json other)
    : part.Alike (.object (before ++ (name, json) :: after))
        (.object (before ++ (name, other) :: after)) := by
  rcases known_of_memberPart? held with ⟨rfl, rfl⟩ | ⟨known, isKnown, listed⟩
  · exact bindings_alike alike
  · exact alike_of_carries isKnown agrees (carriesAll_replaced before name after listed alike)

/-- Among the steps of a list, one may be replaced by another that is read alike. -/
theorem steps_alike {before after : List Json} (alike : Alike .step json other)
    : Alike .steps (.array (before ++ json :: after)) (.array (before ++ other :: after)) := by
  show ∀ steps, Step.ofItems? _ = some steps → Step.ofItems? _ = some steps
  induction before with
  | nil =>
      simp only [List.nil_append, Step.ofItems?, Option.bind_eq_bind, Option.bind_eq_some_iff]
      rintro steps ⟨step, stepRead, rest⟩
      exact ⟨step, alike _ stepRead, rest⟩
  | cons first rest ih =>
      simp only [List.cons_append, Step.ofItems?, Option.bind_eq_bind, Option.bind_eq_some_iff]
      rintro steps ⟨step, stepRead, below, belowRead, made⟩
      exact ⟨step, stepRead, below, ih _ belowRead, made⟩

/-- Of an array that is read as a record one may suppose that it has no more items than the record
has fields.
-/
theorem follows_of_few {α : Type} {read? : Json → Option α} (names : List String)
    {make? : List (String × Json) → Option α}
    (isRecord : ∀ json, read? json = (json.fields? names).bind make?) {items : List Json}
    (follows : items.length ≤ names.length → Follows read? (.array items) other)
    : Follows read? (.array items) other := by
  intro result read
  have isRead := read
  rw [isRecord] at isRead
  obtain ⟨fields, isFields, _⟩ := Option.bind_eq_some_iff.mp isRead
  cases fields?_eq_some_iff.mp isFields with
  | array _ few => exact follows few result read

/-- An array is read like another if one of its parts is. -/
theorem alike_of_item {part inner : Part} {before after : List Json}
    (held : part.itemPart? before.length = some inner) (alike : inner.Alike json other)
    : part.Alike (.array (before ++ json :: after)) (.array (before ++ other :: after)) := by
  unfold itemPart? at held
  split at held
  · obtain rfl := Option.some.inj held
    exact steps_alike alike
  · next place =>
      obtain rfl := Option.some.inj held
      obtain rfl := List.length_eq_zero_iff.mp place
      exact follows_of_few Document.fieldNames (fun _ => rfl) fun few =>
        document_alike (.array _ few) (.array _ few)
          (carriesAll_replaced [] "meta" (["data"].zip after) rfl alike)
  · next place =>
      obtain rfl := Option.some.inj held
      obtain ⟨head, rfl⟩ := List.length_eq_one_iff.mp place
      exact follows_of_few Document.fieldNames (fun _ => rfl) fun few =>
        document_alike (.array _ few) (.array _ few)
          (carriesAll_replaced [("meta", head)] "data" ([].zip after) rfl alike)
  · next place =>
      obtain rfl := Option.some.inj held
      obtain rfl := List.length_eq_zero_iff.mp place
      exact follows_of_few Document.dataFieldNames (fun _ => rfl) fun few =>
        data_alike (.array _ few) (.array _ few)
          (carriesAll_replaced [] "steps" (["variables"].zip after) rfl alike)
  · next place =>
      obtain rfl := Option.some.inj held
      obtain ⟨steps, rfl⟩ := List.length_eq_one_iff.mp place
      exact follows_of_few Document.dataFieldNames (fun _ => rfl) fun few =>
        data_alike (.array _ few) (.array _ few)
          (carriesAll_replaced [("steps", steps)] "variables" ([].zip after) rfl alike)
  · next place =>
      obtain rfl := Option.some.inj held
      obtain rfl := List.length_eq_zero_iff.mp place
      exact follows_of_few Condition.fieldNames (fun _ => rfl) fun few =>
        condition_alike (.array _ few) (.array _ few)
          (carriesAll_replaced [] "leftSide" (["operator", "rightSide"].zip after) rfl alike)
  · next place =>
      obtain rfl := Option.some.inj held
      obtain ⟨left, operator, rfl⟩ := List.length_eq_two.mp place
      exact follows_of_few Condition.fieldNames (fun _ => rfl) fun few =>
        condition_alike (.array _ few) (.array _ few)
          (carriesAll_replaced [("leftSide", left), ("operator", operator)] "rightSide"
            ([].zip after) rfl alike)
  · simp at held

end Part

end DesktopAutomation
