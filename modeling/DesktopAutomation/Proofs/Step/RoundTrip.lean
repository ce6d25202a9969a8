import DesktopAutomation.Proofs.Json.Record
import DesktopAutomation.Proofs.Json.RoundTrip
import DesktopAutomation.Tree.Basic

/-! The JSON form of steps reads back, at every depth and with every field of their data.
What is read from JSON is written no deeper than it stood there, though records may stand there as
arrays and with members that no step knows.
-/

namespace DesktopAutomation
open Json

-----------------------------------------------------------------------------------------
-- Data
-----------------------------------------------------------------------------------------

/-- A side of a condition is read as it was written, wherever it stands. -/
theorem ConditionSide.ofJson?_toJson (place : Place) (side : ConditionSide)
    : ofJson? place side.toJson = some side := by
  cases side <;> rfl

/-- A condition is read as it was written, side by side. -/
theorem Condition.ofJson?_toJson (place : Place) (condition : Condition)
    : ofJson? place condition.toJson = some condition := by
  obtain ⟨left, operator, right⟩ := condition
  have fields
      : (Condition.toJson ⟨left, operator, right⟩).fields? fieldNames
        = some [("leftSide", left.toJson), ("operator", .string operator.name),
            ("rightSide", right.toJson)] := rfl
  have operatorRead : Operator.ofJson? place (.string operator.name) = some operator :=
    Operator.ofName?_name operator
  simp [ofJson?, fields, required?, ConditionSide.ofJson?_toJson, operatorRead]

/-- The data of an action read back under the name of its type. -/
theorem Action.ofJson?_toJson (act : Action) : ofJson? act.typeName act.toJson = some act := by
  cases act with
  | click button => cases button <;> rfl
  | _ => rfl

/-- The data of an action are not taken for those of a statement: they have no body. -/
theorem Statement.ofJson?_action (act : Action)
    : Statement.ofJson? act.typeName act.toJson = none := by
  cases act <;> rfl

/-- The data of a statement read back under the name of its type, whatever its body. -/
theorem Statement.ofJson?_fields (stmt : Statement) (body : Json)
    : Statement.ofJson? stmt.typeName (.object (stmt.fields ++ [("steps", body)])) = some stmt := by
  cases stmt with
  | cycle iterable saveItemsAs => rfl
  | conditional condition =>
      have read := Condition.ofJson?_toJson .withinStep condition
      simp [ofJson?, Statement.typeName, Statement.fields, members?, required?, read]

-----------------------------------------------------------------------------------------
-- Steps
-----------------------------------------------------------------------------------------

namespace Step

mutual

/-- A step reads back from its JSON form, with its body. -/
theorem ofJson?_toJson : ∀ step : Step, ofJson? step.toJson = some step
  | .action id act => by
      simp [toJson, record, ofJson?, required?, name?, StepId.ofJson?_toJson,
        Statement.ofJson?_action, Action.ofJson?_toJson]
  | .statement id stmt body => by
      have fields := Statement.ofJson?_fields stmt (.array (bodyToJson body))
      have named
          : bodyOfFields? (stmt.fields ++ [("steps", .array (bodyToJson body))])
            = some body := by
        cases stmt <;>
          simp [Statement.fields, bodyOfFields?, listOfJson?, ofItems?_bodyToJson body]
      simp [toJson, record, ofJson?, required?, name?, StepId.ofJson?_toJson, fields,
        bodyOfMembers?, bodyOfData?, named]

/-- A body reads back from its JSON form. -/
theorem ofItems?_bodyToJson : ∀ body : List Step, ofItems? (bodyToJson body) = some body
  | [] => rfl
  | step :: rest => by
      simp [bodyToJson, ofItems?, ofJson?_toJson step, ofItems?_bodyToJson rest]

end

end Step

/-- A tree is read as it was written. -/
theorem StepTree.ofJson?_toJson (tree : StepTree) : ofJson? tree.toJson = some tree := by
  simp [ofJson?, toJson, Step.listOfJson?, Step.ofItems?_bodyToJson]

-----------------------------------------------------------------------------------------
-- Depth
-----------------------------------------------------------------------------------------

/-- A side of a condition is read from an object. -/
theorem ConditionSide.depth_of_ofJson? {place : Place} {json : Json} {side : ConditionSide}
    (read : ofJson? place json = some side)
    : 1 ≤ json.depth := by
  cases json with
  | object members | array items => simp [depth]
  | _ => simp [ofJson?] at read

theorem ConditionSide.depth_toJson (side : ConditionSide) : side.toJson.depth = 1 := by
  cases side <;> rfl

theorem Condition.depth_toJson (condition : Condition) : condition.toJson.depth = 2 := by
  simp [toJson, depth, membersDepth, ConditionSide.depth_toJson]

/-- A condition is read from an object that holds objects. -/
theorem Condition.depth_of_ofJson? {place : Place} {json : Json} {condition : Condition}
    (read : ofJson? place json = some condition)
    : 2 ≤ json.depth := by
  simp only [ofJson?, Option.bind_eq_bind, Option.bind_eq_some_iff] at read
  obtain ⟨fields, isRecord, left, isLeft, side, sideRead, _⟩ := read
  have inner := ConditionSide.depth_of_ofJson? sideRead
  have outer := depth_of_required? isLeft
  have record := depth_of_fields? isRecord
  omega

theorem Action.depth_toJson (act : Action) : act.toJson.depth = 1 := by
  cases act <;> rfl

/-- The data of an action are a record, too. -/
theorem Action.depth_of_ofJson? {typeName : String} {data : Json} {act : Action}
    (read : ofJson? typeName data = some act)
    : 1 ≤ data.depth := by
  cases data with
  | object members | array items => simp [depth]
  | _ =>
      unfold ofJson? at read
      split at read <;> simp [members?, fields?, KeyCombination.ofJson?] at read

/-- A statement is written no deeper than it was read. -/
theorem Statement.depth_fields {typeName : String} {data : Json} {stmt : Statement}
    (read : ofJson? typeName data = some stmt)
    : membersDepth stmt.fields + 1 ≤ data.depth := by
  simp only [ofJson?, Option.bind_eq_bind, Option.bind_eq_some_iff] at read
  obtain ⟨members, isObject, _, _, read⟩ := read
  rw [depth_of_members? isObject]
  split at read
  · simp only [Option.bind_eq_some_iff] at read
    obtain ⟨_, _, _, _, _, _, _, _, made⟩ := read
    obtain rfl := Option.some.inj made
    exact Nat.succ_le_succ (Nat.zero_le _)
  · simp only [Option.bind_eq_some_iff] at read
    obtain ⟨condition, isField, made, conditionRead, same⟩ := read
    obtain rfl := Option.some.inj same
    have inner := Condition.depth_of_ofJson? conditionRead
    have outer := depth_of_required? isField
    simp only [fields, membersDepth, Condition.depth_toJson]
    omega
  · simp at read

namespace Step

/-- The record of a step nests one deeper than its data. -/
theorem depth_record (id : StepId) (typeName : String) (data : Json)
    : (record id typeName data).depth = data.depth + 1 := by
  simp [record, depth, membersDepth, StepId.toJson]

/-- The data of a statement nest as deep as its own fields, or its body in them. -/
theorem depth_data (stmt : Statement) (body : List Json)
    : (Json.object (stmt.fields ++ [("steps", .array body)])).depth
      = max (membersDepth stmt.fields) (itemsDepth body + 1) + 1 := by
  cases stmt <;> simp [Statement.fields, depth, membersDepth]

mutual

/-- A step is written no deeper than it was read. -/
theorem depth_toJson_le : ∀ {json : Json} {step : Step},
    ofJson? json = some step → step.toJson.depth ≤ json.depth
  | .object members, step, read => by
      simp only [ofJson?, Option.bind_eq_bind, Option.bind_eq_some_iff] at read
      obtain ⟨_, _, id, _, _, _, typeName, _, data, isData, read⟩ := read
      have inside := depth_of_required? isData
      split at read
      · next stmt statement =>
          obtain ⟨body, bodyRead, rfl⟩ := Option.map_eq_some_iff.mp read
          have fields := Statement.depth_fields statement
          have below := depth_bodyOfMembers_le bodyRead
          rw [toJson, depth_record, depth_data, depth]
          omega
      · obtain ⟨act, action, rfl⟩ := Option.map_eq_some_iff.mp read
        have data := Action.depth_of_ofJson? action
        rw [toJson, depth_record, Action.depth_toJson, depth]
        omega

/-- A body is written no deeper than the members it was read from, which hold it as an array in an
object.
-/
theorem depth_bodyOfMembers_le : ∀ {members : List (String × Json)} {body : List Step},
    bodyOfMembers? members = some body
    → itemsDepth (bodyToJson body) + 2 ≤ membersDepth members
  | (name, data) :: rest, body, read => by
      rw [bodyOfMembers?] at read
      rw [membersDepth]
      split at read
      · have here := depth_bodyOfData_le read
        omega
      · have behind := depth_bodyOfMembers_le read
        omega

/-- A body is written no deeper than the data it was read from. -/
theorem depth_bodyOfData_le : ∀ {data : Json} {body : List Step},
    bodyOfData? data = some body → itemsDepth (bodyToJson body) + 2 ≤ data.depth
  | .object fields, body, read => by
      have below := depth_bodyOfFields_le read
      rw [depth]
      omega

/-- A body is written no deeper than the field it was read from. -/
theorem depth_bodyOfFields_le : ∀ {fields : List (String × Json)} {body : List Step},
    bodyOfFields? fields = some body
    → itemsDepth (bodyToJson body) + 1 ≤ membersDepth fields
  | (name, steps) :: rest, body, read => by
      rw [bodyOfFields?] at read
      rw [membersDepth]
      split at read
      · have here := depth_listOfJson_le read
        omega
      · have behind := depth_bodyOfFields_le read
        omega

/-- Steps are written no deeper than the array they were read from. -/
theorem depth_listOfJson_le : ∀ {json : Json} {body : List Step},
    listOfJson? json = some body → itemsDepth (bodyToJson body) + 1 ≤ json.depth
  | .array items, body, read => by
      have below := depth_ofItems_le read
      rw [depth]
      omega

/-- Steps are written no deeper than the items they were read from, by induction over both. -/
theorem depth_ofItems_le : ∀ {items : List Json} {body : List Step},
    ofItems? items = some body → itemsDepth (bodyToJson body) ≤ itemsDepth items
  | [], body, read => by
      obtain rfl := Option.some.inj read
      exact Nat.le_refl _
  | item :: rest, body, read => by
      simp only [ofItems?, Option.bind_eq_bind, Option.bind_eq_some_iff] at read
      obtain ⟨step, stepRead, steps, stepsRead, made⟩ := read
      obtain rfl := Option.some.inj made
      have here := depth_toJson_le stepRead
      have behind := depth_ofItems_le stepsRead
      simp only [bodyToJson, itemsDepth]
      omega

end

end Step

/-- A tree is written no deeper than it was read. -/
theorem StepTree.depth_toJson_le {json : Json} {tree : StepTree} (read : ofJson? json = some tree)
    : tree.toJson.depth ≤ json.depth := by
  obtain ⟨steps, stepsRead, rfl⟩ := Option.map_eq_some_iff.mp read
  exact Step.depth_listOfJson_le stepsRead

-----------------------------------------------------------------------------------------
-- Numbers
-----------------------------------------------------------------------------------------

/-- All numbers within a value are integers. -/
def Json.Integral (json : Json) : Prop := ∀ number ∈ json.numbers, number.integer?.isSome = true

/-- The numbers of an action are integers. -/
theorem Action.integral_toJson (act : Action) : act.toJson.Integral := by
  cases act <;> simp [Json.Integral, toJson, KeyCombination.toJson, numbers, membersNumbers,
    JsonNumber.integer?]

/-- A statement has no numbers of its own. -/
theorem Statement.numbers_fields (stmt : Statement) : membersNumbers stmt.fields = [] := by
  cases stmt with
  | cycle iterable saveItemsAs => rfl
  | conditional condition =>
      obtain ⟨left, operator, right⟩ := condition
      cases left <;> cases right <;> rfl

namespace Step

/-- The record of a step has the integers of its data, and its id. -/
theorem integral_record (id : StepId) (typeName : String) {data : Json} (integral : data.Integral)
    : (record id typeName data).Integral := by
  simpa [Json.Integral, record, numbers, membersNumbers, StepId.toJson, JsonNumber.integer?]
    using integral

mutual

/-- Steps are written with integers only. -/
theorem integral_toJson : ∀ step : Step, step.toJson.Integral
  | .action id act => by
      rw [toJson]
      exact integral_record id act.typeName act.integral_toJson
  | .statement id stmt body => by
      rw [toJson]
      refine integral_record id stmt.typeName fun number member => ?_
      rw [numbers, mem_membersNumbers] at member
      obtain ⟨field, isField, inside⟩ := member
      rcases List.mem_append.mp isField with own | isBody
      · have none := mem_membersNumbers.mpr ⟨field, own, inside⟩
        rw [Statement.numbers_fields] at none
        exact absurd none List.not_mem_nil
      · obtain rfl := List.mem_singleton.mp isBody
        exact integral_bodyToJson body number inside

/-- The numbers of written steps are integers, by induction over the nested lists. -/
theorem integral_bodyToJson : ∀ body : List Step,
    ∀ number ∈ itemsNumbers (bodyToJson body), number.integer?.isSome = true
  | [] => by simp [bodyToJson, itemsNumbers]
  | step :: rest => List.forall_mem_append.mpr ⟨integral_toJson step, integral_bodyToJson rest⟩

end

end Step

end DesktopAutomation
