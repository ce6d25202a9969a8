import DesktopAutomation.Proofs.Json.Record
import DesktopAutomation.Proofs.Tree.Accounting
import DesktopAutomation.Step.Record

/-! How steps are written, told without the reader: by the fields of each type with their values,
and item by item for bodies. Steps are read from JSON exactly if they are written there, so an
item that writes no step is never read.
-/

namespace DesktopAutomation
open Json

-----------------------------------------------------------------------------------------
-- Conditions
-----------------------------------------------------------------------------------------

/-- An origin is written within a step as its name, or as its place in the order of origins. -/
inductive ConditionSide.Origin.Written : ConditionSide.Origin → Json → Prop
  | literal : Written .literal (.string "value")
  | firstPlace : Written .literal (.number (.natural 0))
  | variable : Written .variable (.string "variable")
  | secondPlace : Written .variable (.number (.natural 1))

/-- Where a side takes its value from. -/
def ConditionSide.origin : ConditionSide → Origin
  | .literal _ => .literal
  | .variable _ => .variable

/-- The text that a side takes its value from. -/
def ConditionSide.held : ConditionSide → String
  | .literal text => text
  | .variable name => name

/-- A side is written as an object with its origin and the field that goes with it, or as an array
of the two.
-/
inductive ConditionSide.Written (side : ConditionSide) : Json → Prop
  | object {members origin} (isOrigin : Field members "origin" origin)
    (written : side.origin.Written origin)
    (isHeld : Field members side.origin.fieldName (.string side.held))
    : Written side (.object members)
  | array {origin} (written : side.origin.Written origin)
    : Written side (.array [origin, .string side.held])

/-- A condition is written as a record of its sides and the name of its operator. -/
inductive Condition.Written (condition : Condition) (json : Json) : Prop
  | record {fields left operator right} (isRecord : Record fieldNames json fields)
    (isLeft : Field fields "leftSide" left) (leftWritten : condition.left.Written left)
    (isOperator : Field fields "operator" operator)
    (named : Names condition.operator.name operator)
    (isRight : Field fields "rightSide" right) (rightWritten : condition.right.Written right)

/-- An origin is read exactly from what it is written as. -/
theorem ConditionSide.Origin.ofJson?_eq_some_iff {json : Json} {origin : Origin}
    : ofJson? .withinStep json = some origin ↔ origin.Written json := by
  constructor
  · intro read
    unfold ofJson? at read
    split at read <;> simp only [if_true, Option.some.injEq, reduceCtorEq] at read <;>
      subst read
    · exact .literal
    · exact .variable
    · exact .firstPlace
    · exact .secondPlace
  · rintro (_ | _ | _ | _) <;> rfl

/-- A side is made of its origin and of the text that it holds. -/
theorem ConditionSide.ofOrigin?_eq_some_iff {origin : Origin} {value : Json}
    {side : ConditionSide}
    : ofOrigin? origin value = some side ↔ origin = side.origin ∧ value = .string side.held := by
  cases origin <;> cases side <;>
    simp [ofOrigin?, ConditionSide.origin, ConditionSide.held, string?_eq_some_iff]

/-- A side is read exactly from what it is written as, be it an object or an array. -/
theorem ConditionSide.ofJson?_eq_some_iff {json : Json} {side : ConditionSide}
    : ofJson? .withinStep json = some side ↔ side.Written json := by
  constructor
  · intro read
    unfold ofJson? at read
    split at read
    · simp only [Option.bind_eq_bind, Option.bind_eq_some_iff, required?_eq_some_iff,
        Origin.ofJson?_eq_some_iff, ofOrigin?_eq_some_iff] at read
      obtain ⟨_, isOrigin, _, written, _, isHeld, rfl, rfl⟩ := read
      exact .object isOrigin written isHeld
    · simp only [Option.bind_eq_bind, Option.bind_eq_some_iff, Origin.ofJson?_eq_some_iff,
        ofOrigin?_eq_some_iff] at read
      obtain ⟨_, written, rfl, rfl⟩ := read
      exact .array written
    · simp at read
  · rintro (⟨isOrigin, written, isHeld⟩ | ⟨written⟩)
    · simp only [ofJson?, Option.bind_eq_bind, Option.bind_eq_some_iff, required?_eq_some_iff,
        Origin.ofJson?_eq_some_iff, ofOrigin?_eq_some_iff]
      exact ⟨_, isOrigin, _, written, _, isHeld, rfl, rfl⟩
    · exact Option.bind_eq_some_iff.mpr
        ⟨_, Origin.ofJson?_eq_some_iff.mpr written, ofOrigin?_eq_some_iff.mpr ⟨rfl, rfl⟩⟩

/-- Every operator has one name, and it is read from no other. -/
theorem Operator.ofName?_eq_some_iff {name : String} {operator : Operator}
    : ofName? name = some operator ↔ name = operator.name := by
  constructor
  · intro read
    unfold ofName? at read
    split at read <;> simp at read <;> subst read <;> rfl
  · rintro rfl
    exact ofName?_name operator

/-- Every button has one name, and it is read from no other. -/
theorem MouseButton.ofName?_eq_some_iff {name : String} {button : MouseButton}
    : ofName? name = some button ↔ name = button.name := by
  constructor
  · intro read
    unfold ofName? at read
    split at read <;> simp at read <;> subst read <;> rfl
  · rintro rfl
    exact ofName?_name button

/-- An operator is read exactly from what names it. -/
theorem Operator.ofJson?_eq_some_iff {json : Json} {operator : Operator}
    : ofJson? .withinStep json = some operator ↔ Names operator.name json := by
  simp only [ofJson?, Option.bind_eq_some_iff, name?_eq_some_iff, ofName?_eq_some_iff,
    exists_eq_right]

/-- A button is read exactly from what names it. -/
theorem MouseButton.ofJson?_eq_some_iff {json : Json} {button : MouseButton}
    : ofJson? .withinStep json = some button ↔ Names button.name json := by
  simp only [ofJson?, Option.bind_eq_some_iff, name?_eq_some_iff, ofName?_eq_some_iff,
    exists_eq_right]

/-- A condition is read exactly from what it is written as. -/
theorem Condition.ofJson?_eq_some_iff {json : Json} {condition : Condition}
    : ofJson? .withinStep json = some condition ↔ condition.Written json := by
  simp only [ofJson?, Option.bind_eq_bind, Option.bind_eq_some_iff, fields?_eq_some_iff,
    required?_eq_some_iff, ConditionSide.ofJson?_eq_some_iff, Operator.ofJson?_eq_some_iff]
  constructor
  · rintro ⟨_, isRecord, _, isLeft, _, leftWritten, _, isOperator, _, named, _, isRight, _,
      rightWritten, made⟩
    obtain rfl := Option.some.inj made
    exact .record isRecord isLeft leftWritten isOperator named isRight rightWritten
  · rintro ⟨isRecord, isLeft, leftWritten, isOperator, named, isRight, rightWritten⟩
    exact ⟨_, isRecord, _, isLeft, _, leftWritten, _, isOperator, _, named, _, isRight, _,
      rightWritten, rfl⟩

-----------------------------------------------------------------------------------------
-- Fields
-----------------------------------------------------------------------------------------

/-- What a field of a step holds, other than further steps. -/
inductive FieldValue
  | word (value : UInt64)
  | text (value : String)
  | flag (value : Bool)
  | button (value : MouseButton)
  | condition (value : Condition)

/-- The value of a field is written. -/
def FieldValue.Written : FieldValue → Json → Prop
  | .word value, json => json = .number (.natural value)
  | .text value, json => json = .string value
  | .flag value, json => json = .bool value
  | .button value, json => Names value.name json
  | .condition value, json => value.Written json

/-- The fields of an action with their values. -/
def Action.parts : Action → List (String × FieldValue)
  | .move target => [("x", .word target.x), ("y", .word target.y)]
  | .click button => [("button", .button button)]
  | .write text readFrom => [("text", .text text), ("readFrom", .text readFrom)]
  | .parseString text readFrom divider saveAs =>
    [("parseString", .text text), ("readFrom", .text readFrom), ("divider", .text divider),
      ("saveAs", .text saveAs)]
  | .sleep time => [("time", .word time)]
  | .pressKeyboard combination =>
    [("holdCtrl", .flag combination.holdCtrl), ("holdShift", .flag combination.holdShift),
      ("holdAlt", .flag combination.holdAlt), ("keyCode", .word combination.keyCode),
      ("keyName", .text combination.keyName)]
  | .setVariable saveAs value => [("saveAs", .text saveAs), ("value", .text value)]
  | .destructVariable readFrom index saveAs =>
    [("readFrom", .text readFrom), ("index", .word index), ("saveAs", .text saveAs)]

/-- The fields of a statement with their values, apart from its body. -/
def Statement.parts : Statement → List (String × FieldValue)
  | .cycle iterable saveItemsAs =>
    [("iterable", .text iterable), ("saveItemsAs", .text saveItemsAs)]
  | .conditional condition => [("condition", .condition condition)]

/-- All fields stand among members, with their values. -/
def PartsWritten (parts : List (String × FieldValue)) (members : List (String × Json)) : Prop :=
  ∀ part ∈ parts, ∃ value, Field members part.1 value ∧ part.2.Written value

/-- The data of a step of a type: an object, and for a key combination a record. -/
def DataOf (typeName : String) (data : Json) (members : List (String × Json)) : Prop :=
  if typeName = "pressKeyboard" then Record KeyCombination.fieldNames data members
  else data = .object members

/-- The data of a step are those of one list of members. -/
theorem DataOf.unique {typeName : String} {data : Json} {members others : List (String × Json)}
    (isData : DataOf typeName data members) (again : DataOf typeName data others)
    : members = others := by
  rw [DataOf] at isData again
  split at isData
  · next combination =>
      rw [if_pos combination] at again
      exact isData.unique again
  · next other =>
      rw [if_neg other] at again
      exact Json.object.inj (isData.symm.trans again)

@[simp] theorem partsWritten_nil (members : List (String × Json)) : PartsWritten [] members :=
  fun _ member => absurd member List.not_mem_nil

/-- Fields are written one by one. -/
@[simp] theorem partsWritten_cons {name : String} {held : FieldValue}
    {rest : List (String × FieldValue)} {members : List (String × Json)}
    : PartsWritten ((name, held) :: rest) members
      ↔ (∃ value, Field members name value ∧ held.Written value) ∧ PartsWritten rest members :=
  List.forall_mem_cons

/-- What is read for an action is made of fields of its data, each read for itself. -/
theorem Action.written_of_ofJson? {typeName : String} {data : Json} {act : Action}
    (read : ofJson? typeName data = some act)
    : typeName = act.typeName
      ∧ ∃ members, DataOf typeName data members ∧ PartsWritten act.parts members := by
  unfold ofJson? at read
  split at read <;>
    simp only [Option.bind_eq_bind, Option.bind_eq_some_iff, Option.map_eq_some_iff,
      KeyCombination.ofJson?, Option.pure_def, Option.some.injEq, reduceCtorEq,
      members?_eq_some_iff, fields?_eq_some_iff, required?_eq_some_iff, string?_eq_some_iff,
      word?_eq_some_iff, bool?_eq_some_iff, MouseButton.ofJson?_eq_some_iff,
      exists_eq_right] at read
  · obtain ⟨x, ⟨members, rfl, isX⟩, y, ⟨_, same, isY⟩, rfl⟩ := read
    obtain rfl := Json.object.inj same
    exact ⟨rfl, members, rfl, by simp [parts, FieldValue.Written, isX, isY]⟩
  · obtain ⟨members, rfl, value, isButton, button, named, rfl⟩ := read
    refine ⟨rfl, members, rfl, ?_⟩
    simpa [parts, FieldValue.Written] using ⟨value, isButton, named⟩
  · obtain ⟨text, ⟨members, rfl, isText⟩, readFrom, ⟨_, same, isReadFrom⟩, rfl⟩ := read
    obtain rfl := Json.object.inj same
    exact ⟨rfl, members, rfl, by simp [parts, FieldValue.Written, isText, isReadFrom]⟩
  · obtain ⟨text, ⟨members, rfl, isText⟩, readFrom, ⟨_, same, isReadFrom⟩, divider,
      ⟨_, again, isDivider⟩, saveAs, ⟨_, still, isSaveAs⟩, rfl⟩ := read
    obtain rfl := Json.object.inj same
    obtain rfl := Json.object.inj again
    obtain rfl := Json.object.inj still
    refine ⟨rfl, members, rfl, ?_⟩
    simp [parts, FieldValue.Written, isText, isReadFrom, isDivider, isSaveAs]
  · obtain ⟨time, ⟨members, rfl, isTime⟩, rfl⟩ := read
    exact ⟨rfl, members, rfl, by simp [parts, FieldValue.Written, isTime]⟩
  · obtain ⟨_, ⟨members, isRecord, _, isCtrl, holdCtrl, rfl, _, isShift, holdShift, rfl, _, isAlt,
      holdAlt, rfl, _, isCode, keyCode, rfl, _, isName, keyName, rfl, rfl⟩, rfl⟩ := read
    refine ⟨rfl, members, isRecord, ?_⟩
    simp [parts, FieldValue.Written, isCtrl, isShift, isAlt, isCode, isName]
  · obtain ⟨saveAs, ⟨members, rfl, isSaveAs⟩, value, ⟨_, same, isValue⟩, rfl⟩ := read
    obtain rfl := Json.object.inj same
    exact ⟨rfl, members, rfl, by simp [parts, FieldValue.Written, isSaveAs, isValue]⟩
  · obtain ⟨readFrom, ⟨members, rfl, isReadFrom⟩, index, ⟨_, same, isIndex⟩, saveAs,
      ⟨_, again, isSaveAs⟩, rfl⟩ := read
    obtain rfl := Json.object.inj same
    obtain rfl := Json.object.inj again
    refine ⟨rfl, members, rfl, ?_⟩
    simp [parts, FieldValue.Written, isReadFrom, isIndex, isSaveAs]

/-- Data with all fields of an action are read as this action. -/
theorem Action.ofJson?_of_written {data : Json} {act : Action} {members : List (String × Json)}
    (isData : DataOf act.typeName data members) (written : PartsWritten act.parts members)
    : ofJson? act.typeName data = some act := by
  cases act with
  | pressKeyboard combination =>
      have isRecord : data.fields? KeyCombination.fieldNames = some members :=
        fields?_eq_some_iff.mpr isData
      simp only [parts, partsWritten_cons, FieldValue.Written, exists_eq_right,
        ← required?_eq_some_iff] at written
      obtain ⟨isCtrl, isShift, isAlt, isCode, isName, _⟩ := written
      simp [typeName, ofJson?, KeyCombination.ofJson?, isRecord, isCtrl, isShift, isAlt, isCode,
        isName, bool?, word?, string?]
  | click button =>
      obtain rfl : data = .object members := isData
      simp only [parts, partsWritten_cons, FieldValue.Written, ← required?_eq_some_iff,
        ← MouseButton.ofJson?_eq_some_iff] at written
      obtain ⟨⟨value, isButton, named⟩, _⟩ := written
      simp [typeName, ofJson?, members?, isButton, named]
  | _ =>
      obtain rfl : data = .object members := isData
      simp only [parts, partsWritten_cons, FieldValue.Written, exists_eq_right,
        ← required?_eq_some_iff] at written
      simp [typeName, ofJson?, members?, written, word?, string?]

/-- No statement has the type of an action. -/
theorem Statement.ofJson?_of_action (act : Action) (data : Json)
    : ofJson? act.typeName data = none := by
  cases act <;> simp [ofJson?, Action.typeName]

/-- A statement is read exactly if its fields are written and something stands where its body
belongs.
-/
theorem Statement.ofJson?_eq_some_iff {typeName : String} {data : Json} {stmt : Statement}
    : ofJson? typeName data = some stmt
      ↔ typeName = stmt.typeName
        ∧ ∃ members body,
            data = .object members
            ∧ Field members "steps" body
            ∧ PartsWritten stmt.parts members := by
  constructor
  · intro read
    simp only [ofJson?, Option.bind_eq_bind, Option.bind_eq_some_iff, members?_eq_some_iff,
      required?_eq_some_iff] at read
    obtain ⟨members, rfl, body, isBody, read⟩ := read
    split at read <;>
      simp only [Option.bind_eq_some_iff, Option.pure_def, Option.some.injEq, reduceCtorEq,
        required?_eq_some_iff, string?_eq_some_iff, Condition.ofJson?_eq_some_iff] at read
    · obtain ⟨_, isIterable, iterable, rfl, _, isName, saveItemsAs, rfl, rfl⟩ := read
      refine ⟨rfl, members, body, rfl, isBody, ?_⟩
      simp [parts, FieldValue.Written, isIterable, isName]
    · obtain ⟨value, isCondition, condition, written, rfl⟩ := read
      refine ⟨rfl, members, body, rfl, isBody, ?_⟩
      simpa [parts, FieldValue.Written] using ⟨value, isCondition, written⟩
  · rintro ⟨rfl, members, body, rfl, isBody, written⟩
    rw [← required?_eq_some_iff] at isBody
    cases stmt with
    | cycle iterable saveItemsAs =>
        simp only [parts, partsWritten_cons, FieldValue.Written, exists_eq_right,
          ← required?_eq_some_iff] at written
        simp [typeName, ofJson?, members?, isBody, written, string?]
    | conditional condition =>
        simp only [parts, partsWritten_cons, FieldValue.Written, ← required?_eq_some_iff,
          ← Condition.ofJson?_eq_some_iff] at written
        obtain ⟨⟨value, isCondition, conditionWritten⟩, _⟩ := written
        simp [typeName, ofJson?, members?, isBody, isCondition, conditionWritten]

-----------------------------------------------------------------------------------------
-- Steps
-----------------------------------------------------------------------------------------

namespace Step

/-- A step with an id and a type is written: an object with both and with its data. -/
structure Head (id : StepId) (typeName : String) (members : List (String × Json)) (data : Json)
    : Prop where
  isId : Field members "id" (.number (.natural id.value))
  isType : ∃ type, Field members "type" type ∧ Names typeName type
  isData : Field members "data" data

mutual

/-- A step is written with all its fields, and with its body if it has one. -/
inductive Written : Step → Json → Prop
  | action {id act members data fields} (head : Head id act.typeName members data)
    (isData : DataOf act.typeName data fields) (parts : PartsWritten act.parts fields)
    : Written (.action id act) (.object members)
  | statement {id stmt body members fields items}
    (head : Head id stmt.typeName members (.object fields)) (parts : PartsWritten stmt.parts fields)
    (isBody : Field fields "steps" (.array items)) (each : AllWritten body items)
    : Written (.statement id stmt body) (.object members)

/-- Steps are written one by one, in their order. -/
inductive AllWritten : List Step → List Json → Prop
  | nil : AllWritten [] []
  | cons {step item steps items} (first : Written step item) (others : AllWritten steps items)
    : AllWritten (step :: steps) (item :: items)

end

/-- Only the first member with a name is looked at, and a field stands only once. -/
theorem bodyOfMembers?_of_field {members : List (String × Json)} {data : Json}
    (isData : Field members "data" data)
    : bodyOfMembers? members = bodyOfData? data := by
  obtain ⟨before, after, rfl, others⟩ := isData
  induction before with
  | nil => rw [List.nil_append, bodyOfMembers?, if_pos rfl]
  | cons first rest ih =>
      obtain ⟨differs, others⟩ := List.forall_mem_cons.mp others
      rw [List.cons_append, bodyOfMembers?, if_neg differs]
      exact ih others

/-- The body of a statement is read from the field that holds it. -/
theorem bodyOfFields?_of_field {fields : List (String × Json)} {steps : Json}
    (isBody : Field fields "steps" steps)
    : bodyOfFields? fields = listOfJson? steps := by
  obtain ⟨before, after, rfl, others⟩ := isBody
  induction before with
  | nil => rw [List.nil_append, bodyOfFields?, if_pos rfl]
  | cons first rest ih =>
      obtain ⟨differs, others⟩ := List.forall_mem_cons.mp others
      rw [List.cons_append, bodyOfFields?, if_neg differs]
      exact ih others

/-- Steps are read from the items of an array. -/
theorem listOfJson?_eq_some_iff {json : Json} {steps : List Step}
    : listOfJson? json = some steps
      ↔ ∃ items, json = .array items ∧ ofItems? items = some steps := by
  cases json <;> simp [listOfJson?]

/-- What is read of an object depends on its head: a statement if its data are those of one, else an
action.
-/
theorem ofJson?_eq_some_iff {json : Json} {step : Step}
    : ofJson? json = some step
      ↔ ∃ members id typeName data,
          json = .object members
          ∧ Head id typeName members data
          ∧ match Statement.ofJson? typeName data with
            | some stmt => (bodyOfData? data).map (.statement id stmt) = some step
            | none => (Action.ofJson? typeName data).map (.action id) = some step := by
  cases json with
  | object members =>
      simp only [ofJson?, Option.bind_eq_bind, Option.bind_eq_some_iff, required?_eq_some_iff,
        name?_eq_some_iff, StepId.ofJson?, Option.map_eq_some_iff, word?_eq_some_iff,
        Json.object.injEq, exists_and_left, exists_eq_left']
      constructor
      · rintro ⟨_, isId, _, ⟨word, rfl, rfl⟩, type, isType, typeName, named, data, isData, made⟩
        refine ⟨⟨word⟩, typeName, data, ⟨isId, ⟨type, isType, named⟩, isData⟩, ?_⟩
        rw [bodyOfMembers?_of_field isData] at made
        cases isStatement : Statement.ofJson? typeName data <;> simpa [isStatement] using made
      · rintro ⟨id, typeName, data, ⟨isId, ⟨type, isType, named⟩, isData⟩, made⟩
        refine ⟨_, isId, _, ⟨_, rfl, rfl⟩, type, isType, typeName, named, data, isData, ?_⟩
        rw [bodyOfMembers?_of_field isData]
        cases isStatement : Statement.ofJson? typeName data <;> simpa [isStatement] using made
  | _ => simp [ofJson?]

/-- An action is read exactly from what it is written as, field by field. -/
theorem ofJson?_eq_action_iff {json : Json} {id : StepId} {act : Action}
    : ofJson? json = some (.action id act) ↔ Written (.action id act) json := by
  rw [ofJson?_eq_some_iff]
  constructor
  · rintro ⟨members, other, typeName, data, rfl, head, made⟩
    split at made
    · simp at made
    · obtain ⟨read, isAction, same⟩ := Option.map_eq_some_iff.mp made
      obtain ⟨rfl, rfl⟩ := Step.action.inj same
      obtain ⟨rfl, fields, isData, parts⟩ := Action.written_of_ofJson? isAction
      exact .action head isData parts
  · intro written
    cases written with
    | @action _ _ members data fields head isData parts =>
        refine ⟨members, id, act.typeName, data, rfl, head, ?_⟩
        rw [Statement.ofJson?_of_action act data, Action.ofJson?_of_written isData parts]
        rfl

/-- A statement is read exactly from a head with its type, its own fields and an array that its body
is read from.
-/
theorem ofJson?_eq_statement_iff {json : Json} {id : StepId} {stmt : Statement}
    {body : List Step}
    : ofJson? json = some (.statement id stmt body)
      ↔ ∃ members fields items,
          json = .object members
          ∧ Head id stmt.typeName members (.object fields)
          ∧ PartsWritten stmt.parts fields
          ∧ Field fields "steps" (.array items)
          ∧ ofItems? items = some body := by
  rw [ofJson?_eq_some_iff]
  constructor
  · rintro ⟨members, other, typeName, data, rfl, head, made⟩
    split at made
    · next read isStatement =>
        obtain ⟨below, isBody, same⟩ := Option.map_eq_some_iff.mp made
        obtain ⟨rfl, rfl, rfl⟩ := Step.statement.inj same
        obtain ⟨rfl, fields, steps, rfl, isSteps, parts⟩ :=
          Statement.ofJson?_eq_some_iff.mp isStatement
        rw [bodyOfData?, bodyOfFields?_of_field isSteps, listOfJson?_eq_some_iff] at isBody
        obtain ⟨items, rfl, isBody⟩ := isBody
        exact ⟨members, fields, items, rfl, head, parts, isSteps, isBody⟩
    · obtain ⟨_, _, same⟩ := Option.map_eq_some_iff.mp made
      simp at same
  · rintro ⟨members, fields, items, rfl, head, parts, isSteps, isBody⟩
    have isStatement : Statement.ofJson? stmt.typeName (.object fields) = some stmt :=
      Statement.ofJson?_eq_some_iff.mpr ⟨rfl, fields, _, rfl, isSteps, parts⟩
    refine ⟨members, id, stmt.typeName, _, rfl, head, ?_⟩
    rw [isStatement, bodyOfData?, bodyOfFields?_of_field isSteps, listOfJson?, isBody]
    rfl

/-- Steps are read exactly if they are written, one by one; by induction over the nested steps. -/
theorem ofItems?_eq_some_iff {items : List Json} {steps : List Step}
    : ofItems? items = some steps ↔ AllWritten steps items := by
  have front {step : Step} {others : List Step} {items : List Json}
      : ofItems? items = some (step :: others)
        ↔ ∃ item rest,
            items = item :: rest ∧ ofJson? item = some step ∧ ofItems? rest = some others := by
    cases items <;> simp [ofItems?, Option.bind_eq_some_iff]
  induction steps using steps_induction generalizing items with
  | nil =>
      constructor
      · intro none
        cases items with
        | nil => exact .nil
        | cons item rest => simp [ofItems?, Option.bind_eq_some_iff] at none
      · rintro (_ | _)
        rfl
  | action id act rest ih =>
      rw [front]
      constructor
      · rintro ⟨item, others, rfl, first, behind⟩
        exact .cons (ofJson?_eq_action_iff.mp first) (ih.mp behind)
      · rintro (_ | ⟨first, others⟩)
        exact ⟨_, _, rfl, ofJson?_eq_action_iff.mpr first, ih.mpr others⟩
  | statement id stmt body rest bodyIH restIH =>
      rw [front]
      simp only [ofJson?_eq_statement_iff]
      constructor
      · rintro ⟨_, others, rfl, ⟨members, fields, inner, rfl, head, parts, isSteps, isBody⟩, behind⟩
        exact .cons (.statement head parts isSteps (bodyIH.mp isBody)) (restIH.mp behind)
      · intro written
        cases written with
        | cons first others =>
            cases first with
            | statement head parts isSteps each =>
                exact ⟨_, _, rfl, ⟨_, _, _, rfl, head, parts, isSteps, bodyIH.mpr each⟩,
                  restIH.mpr others⟩

end Step

end DesktopAutomation
