import DesktopAutomation.Proofs.Step.Written

/-! Items that write no step, told by what is wrong with them. Names and records have a plain form,
and a few more that are read as well. An item that is read is faulty by the plain forms exactly if
it is loose: if some name is no string or some record no object.
-/

namespace DesktopAutomation
open Json

-----------------------------------------------------------------------------------------
-- Forms of names and records
-----------------------------------------------------------------------------------------

/-- The forms that count for names and records: the plain ones, or all that are read. -/
inductive Manner
  | plain
  | any

/-- A name is written: as a string, or in any form of a name. -/
def Manner.NameIn : Manner → String → Json → Prop
  | .plain, name, json => json = .string name
  | .any, name, json => Names name json

/-- The data of a step are written: as an object, or in any form that its type allows. -/
def Manner.DataIn : Manner → String → Json → List (String × Json) → Prop
  | .plain, _, data, fields => data = .object fields
  | .any, typeName, data, fields => DataOf typeName data fields

theorem Manner.NameIn.unique {manner : Manner} {json : Json} {name other : String}
    (named : manner.NameIn name json) (again : manner.NameIn other json)
    : name = other := by
  cases manner with
  | plain => exact Json.string.inj (named.symm.trans again)
  | any => exact Names.unique named again

theorem Manner.DataIn.unique {manner : Manner} {typeName : String} {data : Json}
    {fields others : List (String × Json)} (isData : manner.DataIn typeName data fields)
    (again : manner.DataIn typeName data others)
    : fields = others := by
  cases manner with
  | plain => exact Json.object.inj (isData.symm.trans again)
  | any => exact DataOf.unique isData again

/-- A name that is a string is written plainly. -/
theorem Json.Names.plain {name : String} {json : Json} (named : Names name json)
    (isString : ¬∀ other, json ≠ .string other)
    : json = .string name := by
  cases named with
  | string => rfl
  | null => simp at isString
  | object => simp at isString

/-- Data that are an object are written plainly. -/
theorem DataOf.plain {typeName : String} {data : Json} {fields : List (String × Json)}
    (isData : DataOf typeName data fields) (isObject : ¬∀ others, data ≠ .object others)
    : data = .object fields := by
  rw [DataOf] at isData
  split at isData
  · cases isData with
    | object => rfl
    | array items few => simp at isObject
  · exact isData

-----------------------------------------------------------------------------------------
-- Conditions
-----------------------------------------------------------------------------------------

/-- A side is written plainly as an object with the name of its origin. -/
inductive ConditionSide.Plain (side : ConditionSide) : Json → Prop
  | object {members origin} (isOrigin : Field members "origin" (.string origin))
    (written : side.origin.Written (.string origin))
    (isHeld : Field members side.origin.fieldName (.string side.held))
    : Plain side (.object members)

/-- A condition is written plainly as an object with plain sides and the name of its operator. -/
inductive Condition.Plain (condition : Condition) : Json → Prop
  | object {fields left right} (isLeft : Field fields "leftSide" left)
    (leftPlain : condition.left.Plain left)
    (isOperator : Field fields "operator" (.string condition.operator.name))
    (isRight : Field fields "rightSide" right) (rightPlain : condition.right.Plain right)
    : Plain condition (.object fields)

/-- What makes a side loose: it is no object, or its origin is no string. -/
inductive ConditionSide.Loose : Json → Prop
  | noObject {json} (other : ∀ members, json ≠ .object members) : Loose json
  | origin {members origin} (isOrigin : Field members "origin" origin)
    (noString : ∀ name, origin ≠ .string name)
    : Loose (.object members)

/-- What makes a condition loose: it is no object, a side is loose, or its operator is no string. -/
inductive Condition.Loose : Json → Prop
  | noObject {json} (other : ∀ fields, json ≠ .object fields) : Loose json
  | side {fields name side} (isName : name ∈ ["leftSide", "rightSide"])
    (isSide : Field fields name side) (loose : ConditionSide.Loose side)
    : Loose (.object fields)
  | operator {fields operator} (isOperator : Field fields "operator" operator)
    (noString : ∀ name, operator ≠ .string name)
    : Loose (.object fields)

theorem ConditionSide.Plain.not_loose {side : ConditionSide} {json : Json}
    (plain : side.Plain json)
    : ¬Loose json := by
  obtain ⟨isOrigin, _, _⟩ := plain
  rintro (other | ⟨isOther, noString⟩)
  · exact other _ rfl
  · exact noString _ (isOther.unique isOrigin)

theorem ConditionSide.Written.plain {side : ConditionSide} {json : Json}
    (written : side.Written json) (tight : ¬Loose json)
    : side.Plain json := by
  cases written with
  | @object members origin isOrigin originWritten isHeld =>
      by_cases noString : ∀ name, origin ≠ .string name
      · exact absurd (.origin isOrigin noString) tight
      · push Not at noString
        obtain ⟨name, rfl⟩ := noString
        exact .object isOrigin originWritten isHeld
  | array => exact absurd (.noObject (by simp)) tight

theorem Condition.Plain.not_loose {condition : Condition} {json : Json}
    (plain : condition.Plain json)
    : ¬Loose json := by
  obtain ⟨isLeft, leftPlain, isOperator, isRight, rightPlain⟩ := plain
  rintro (other | ⟨isName, isSide, loose⟩ | ⟨isOther, noString⟩)
  · exact other _ rfl
  · simp only [List.mem_cons, List.not_mem_nil, or_false] at isName
    rcases isName with rfl | rfl
    · obtain rfl := isSide.unique isLeft
      exact leftPlain.not_loose loose
    · obtain rfl := isSide.unique isRight
      exact rightPlain.not_loose loose
  · exact noString _ (isOther.unique isOperator)

theorem Condition.Written.plain {condition : Condition} {json : Json}
    (written : condition.Written json) (tight : ¬Loose json)
    : condition.Plain json := by
  obtain ⟨isRecord, isLeft, leftWritten, isOperator, named, isRight, rightWritten⟩ := written
  cases isRecord with
  | object members =>
      refine .object isLeft (leftWritten.plain fun loose => ?_) ?_ isRight
        (rightWritten.plain fun loose => ?_)
      · exact tight (.side (by simp) isLeft loose)
      · rw [← named.plain fun noString => tight (.operator isOperator noString)]
        exact isOperator
      · exact tight (.side (by simp) isRight loose)
  | array => exact absurd (.noObject (by simp)) tight

-----------------------------------------------------------------------------------------
-- Fields
-----------------------------------------------------------------------------------------

/-- What a field of a step must hold. -/
inductive FieldKind
  | word
  | text
  | flag
  | button
  | condition
  | steps

/-- A value is one that a field may hold. -/
def FieldKind.Holds (manner : Manner) : FieldKind → Json → Prop
  | .word, json => ∃ value, json = .number (.natural value)
  | .text, json => ∃ value, json = .string value
  | .flag, json => ∃ value, json = .bool value
  | .button, json => ∃ button : MouseButton, manner.NameIn button.name json
  | .condition, json =>
    match manner with
    | .plain => ∃ condition : Condition, condition.Plain json
    | .any => ∃ condition : Condition, condition.Written json
  | .steps, json => ∃ items, json = .array items

/-- What makes the value of a field loose: a button is no string, or a condition is loose. -/
def FieldKind.Loose : FieldKind → Json → Prop
  | .button, json => ∀ name, json ≠ .string name
  | .condition, json => Condition.Loose json
  | _, _ => False

/-- A value that a field may hold is in its plain form unless it is loose. -/
theorem FieldKind.holds_plain_iff {kind : FieldKind} {json : Json} (holds : kind.Holds .any json)
    : kind.Holds .plain json ↔ ¬kind.Loose json := by
  cases kind with
  | button =>
      obtain ⟨button, named⟩ := holds
      constructor
      · rintro ⟨other, isString⟩ noString
        exact noString _ isString
      · intro isString
        exact ⟨button, named.plain isString⟩
  | condition =>
      obtain ⟨condition, written⟩ := holds
      constructor
      · rintro ⟨other, plain⟩
        exact plain.not_loose
      · intro tight
        exact ⟨condition, written.plain tight⟩
  | _ => exact ⟨fun _ => id, fun _ => holds⟩

/-- The fields that the data of a type must have, for the ten types of steps. -/
def fieldsOf? : String → Option (List (String × FieldKind))
  | "move" => some [("x", .word), ("y", .word)]
  | "click" => some [("button", .button)]
  | "write" => some [("text", .text), ("readFrom", .text)]
  | "parseString" =>
    some [("parseString", .text), ("readFrom", .text), ("divider", .text), ("saveAs", .text)]
  | "sleep" => some [("time", .word)]
  | "pressKeyboard" =>
    some [("holdCtrl", .flag), ("holdShift", .flag), ("holdAlt", .flag), ("keyCode", .word),
      ("keyName", .text)]
  | "setVariable" => some [("saveAs", .text), ("value", .text)]
  | "destructVariable" => some [("readFrom", .text), ("index", .word), ("saveAs", .text)]
  | "cycle" => some [("iterable", .text), ("saveItemsAs", .text), ("steps", .steps)]
  | "conditional" => some [("condition", .condition), ("steps", .steps)]
  | _ => none

/-- The kind of field that a value is held by. -/
def FieldValue.kind : FieldValue → FieldKind
  | .word _ => .word
  | .text _ => .text
  | .flag _ => .flag
  | .button _ => .button
  | .condition _ => .condition

theorem FieldValue.holds_of_written {held : FieldValue} {json : Json} (written : held.Written json)
    : held.kind.Holds .any json := by
  cases held <;> exact ⟨_, written⟩

theorem fieldsOf?_action (act : Action)
    : fieldsOf? act.typeName = some (act.parts.map fun part => (part.1, part.2.kind)) := by
  cases act <;> rfl

theorem fieldsOf?_statement (stmt : Statement)
    : fieldsOf? stmt.typeName
      = some ((stmt.parts.map fun part => (part.1, part.2.kind)) ++ [("steps", .steps)]) := by
  cases stmt <;> rfl

theorem PartsWritten.holds {parts : List (String × FieldValue)} {members : List (String × Json)}
    (written : PartsWritten parts members) {name : String} {kind : FieldKind}
    (required : (name, kind) ∈ parts.map fun part => (part.1, part.2.kind))
    : ∃ value, Field members name value ∧ kind.Holds .any value := by
  obtain ⟨part, isPart, same⟩ := List.mem_map.mp required
  obtain ⟨rfl, rfl⟩ := Prod.mk.inj same
  obtain ⟨value, isField, held⟩ := written part isPart
  exact ⟨value, isField, part.2.holds_of_written held⟩

-----------------------------------------------------------------------------------------
-- Items
-----------------------------------------------------------------------------------------

/-- What keeps an item from being a step: it is no object, it lacks one of the members of a step,
its id is no word, its type is unknown, its data are no data of the type, or a field of the type
is not there with a value that it may hold.
-/
inductive Faulty (manner : Manner) : Json → Prop
  | noObject {json} (other : ∀ members, json ≠ .object members) : Faulty manner json
  | missing {members name} (required : name ∈ ["id", "type", "data"])
    (missing : ∀ value, ¬Field members name value)
    : Faulty manner (.object members)
  | id {members value} (isId : Field members "id" value)
    (noWord : ∀ word, value ≠ .number (.natural word))
    : Faulty manner (.object members)
  | type {members value} (isType : Field members "type" value)
    (unknown : ∀ name, manner.NameIn name value → fieldsOf? name = none)
    : Faulty manner (.object members)
  | data {members type typeName data} (isType : Field members "type" type)
    (named : manner.NameIn typeName type) (isData : Field members "data" data)
    (noRecord : ∀ fields, ¬manner.DataIn typeName data fields)
    : Faulty manner (.object members)
  | field {members type typeName data fields kinds name kind} (isType : Field members "type" type)
    (named : manner.NameIn typeName type) (isData : Field members "data" data)
    (isRecord : manner.DataIn typeName data fields) (known : fieldsOf? typeName = some kinds)
    (required : (name, kind) ∈ kinds)
    (unfit : ∀ value, Field fields name value → ¬kind.Holds manner value)
    : Faulty manner (.object members)

/-- What an item needs to be a step, whatever stands in its body. -/
inductive Fit (manner : Manner) : Json → Prop
  | item {members word type typeName data fields kinds}
    (isId : Field members "id" (.number (.natural word))) (isType : Field members "type" type)
    (named : manner.NameIn typeName type) (isData : Field members "data" data)
    (isRecord : manner.DataIn typeName data fields) (known : fieldsOf? typeName = some kinds)
    (each
      : ∀ name kind,
          (name, kind) ∈ kinds → ∃ value, Field fields name value ∧ kind.Holds manner value)
    : Fit manner (.object members)

/-- What makes an item loose: its type is no string, its data are no object, or a field is loose. -/
inductive Loose : Json → Prop
  | type {members type} (isType : Field members "type" type)
    (noString : ∀ name, type ≠ .string name)
    : Loose (.object members)
  | data {members data} (isData : Field members "data" data)
    (noObject : ∀ fields, data ≠ .object fields)
    : Loose (.object members)
  | field {members typeName fields kinds name kind value}
    (isType : Field members "type" (.string typeName))
    (isData : Field members "data" (.object fields)) (known : fieldsOf? typeName = some kinds)
    (required : (name, kind) ∈ kinds) (isField : Field fields name value)
    (loose : kind.Loose value)
    : Loose (.object members)

/-- An item that has all that a step needs has no fault. -/
theorem Fit.not_faulty {manner : Manner} {item : Json} (fit : Fit manner item)
    : ¬Faulty manner item := by
  obtain ⟨isId, isType, named, isData, isRecord, known, each⟩ := fit
  intro faulty
  cases faulty with
  | noObject other => exact other _ rfl
  | missing required missing =>
      simp only [List.mem_cons, List.not_mem_nil, or_false] at required
      rcases required with rfl | rfl | rfl
      · exact missing _ isId
      · exact missing _ isType
      · exact missing _ isData
  | id otherId noWord => exact noWord _ (otherId.unique isId)
  | type otherType unknown =>
      obtain rfl := otherType.unique isType
      simp [unknown _ named] at known
  | data otherType otherNamed otherData noRecord =>
      obtain rfl := otherType.unique isType
      obtain rfl := otherNamed.unique named
      obtain rfl := otherData.unique isData
      exact noRecord _ isRecord
  | field otherType otherNamed otherData otherRecord otherKnown required unfit =>
      obtain rfl := otherType.unique isType
      obtain rfl := otherNamed.unique named
      obtain rfl := otherData.unique isData
      obtain rfl := otherRecord.unique isRecord
      obtain rfl := Option.some.inj (otherKnown.symm.trans known)
      obtain ⟨value, isField, holds⟩ := each _ _ required
      exact unfit value isField holds

/-- An item that writes a step has all that it needs. -/
theorem Step.Written.fit {step : Step} {item : Json} (written : step.Written item)
    : Fit .any item := by
  cases written with
  | @action id act members data fields head isData parts =>
      obtain ⟨type, isType, named⟩ := head.isType
      exact .item head.isId isType named head.isData isData (fieldsOf?_action act)
        fun _ _ required => parts.holds required
  | @statement id stmt body members fields items head parts isBody each =>
      obtain ⟨type, isType, named⟩ := head.isType
      have isRecord : DataOf stmt.typeName (.object fields) fields := by cases stmt <;> rfl
      refine .item head.isId isType named head.isData isRecord (fieldsOf?_statement stmt) ?_
      intro name kind required
      rcases List.mem_append.mp required with own | isSteps
      · exact parts.holds own
      · obtain ⟨rfl, rfl⟩ := Prod.mk.inj (List.mem_singleton.mp isSteps)
        exact ⟨_, isBody, items, rfl⟩

/-- An item that is not loose has what it needs in the plain forms. -/
theorem Fit.plain {item : Json} (fit : Fit .any item) (tight : ¬Loose item) : Fit .plain item := by
  obtain ⟨isId, isType, named, isData, isRecord, known, each⟩ := fit
  obtain rfl := named.plain fun noString => tight (.type isType noString)
  obtain rfl := isRecord.plain fun noObject => tight (.data isData noObject)
  refine .item isId isType rfl isData rfl known fun name kind required => ?_
  obtain ⟨value, isField, holds⟩ := each name kind required
  refine ⟨value, isField, (FieldKind.holds_plain_iff holds).mpr fun loose => ?_⟩
  exact tight (.field isType isData known required isField loose)

/-- Whatever is loose is a fault by the plain forms. -/
theorem Fit.faulty_of_loose {item : Json} (fit : Fit .any item) (loose : Loose item)
    : Faulty .plain item := by
  cases loose with
  | type isType noString =>
      exact .type isType fun name isName => absurd isName (noString name)
  | data isData noObject =>
      cases fit with
      | @item _ _ type _ _ _ _ _ isType named =>
          -- Data are at fault for a type whose name is a string; else the type itself is.
          by_cases noString : ∀ name, type ≠ .string name
          · exact .type isType fun name isName => absurd isName (noString name)
          · exact .data isType (named.plain noString) isData noObject
  | field isType isData known required isField loose =>
      refine .field isType rfl isData rfl known required fun value isValue plain => ?_
      obtain ⟨_, otherType, named, otherData, isRecord, otherKnown, each⟩ := fit
      obtain rfl := otherType.unique isType
      obtain rfl := otherData.unique isData
      obtain rfl := named.unique .string
      obtain rfl := Json.object.inj (isRecord.plain (by simp))
      obtain rfl := Option.some.inj (otherKnown.symm.trans known)
      obtain ⟨held, isHeld, holds⟩ := each _ _ required
      obtain rfl := isHeld.unique isField
      obtain rfl := isValue.unique isField
      exact (FieldKind.holds_plain_iff holds).mp plain loose

/-- An item that is read is faulty by the plain forms exactly if it is loose. -/
theorem Fit.faulty_plain_iff {item : Json} (fit : Fit .any item)
    : Faulty .plain item ↔ Loose item := by
  refine ⟨fun faulty => ?_, fit.faulty_of_loose⟩
  by_contra tight
  exact (fit.plain tight).not_faulty faulty

end DesktopAutomation
