import DesktopAutomation.Proofs.Document.Parts
import Mathlib.Data.List.Perm.Basic

/-! Texts that name the same document. The members of the objects that a document is made of may be
put in another order, and members with names that their object does not know may be added, at every
depth and as often as one likes: the text is accepted as before, as an equal document.
-/

namespace DesktopAutomation
open Json RawJson

-----------------------------------------------------------------------------------------
-- Rearranged trees
-----------------------------------------------------------------------------------------

namespace Part

/-- The value of the first member with a name, with at most `depth` arrays and objects in it. -/
def valueOf? (depth : Nat) (members : List (Option String × RawJson)) (name : String)
    : Option Json :=
  (members.lookup (some name)).bind (·.value? depth)

/-- One change to the tree of a part that may nest `depth` arrays and objects: the members of a
record are put in another order, or a member is added that the record does not know, or one of the
parts within is changed. Whatever is added must have a value itself.
-/
inductive Rearranges : Nat → Part → RawJson → RawJson → Prop
  | permute {depth part members changed known}
    (isKnown : part.fields? (valueOf? depth members) = some known) (same : members.Perm changed)
    : Rearranges (depth + 1) part (.object members) (.object changed)
  | add {depth part members known name value}
    (isKnown : part.fields? (valueOf? depth members) = some known)
    (unknown : name ∉ known.map (·.1)) (decodable : (value.value? depth).isSome)
    : Rearranges (depth + 1) part (.object members) (.object ((some name, value) :: members))
  | member {depth part inner before after name value changed}
    (held
      : part.memberPart? (valueOf? depth (before ++ (some name, value) :: after)) name
        = some inner)
    (within : Rearranges depth inner value changed)
    : Rearranges (depth + 1) part (.object (before ++ (some name, value) :: after))
        (.object (before ++ (some name, changed) :: after))
  | item {depth part inner before after value changed}
    (held : part.itemPart? before.length = some inner)
    (within : Rearranges depth inner value changed)
    : Rearranges (depth + 1) part (.array (before ++ value :: after))
        (.array (before ++ changed :: after))

end Part

/-- A text is made from another by any number of changes to the parts of a document. -/
def Document.Rearranged (text changed : String) : Prop :=
  ∃ raw other,
    RawJson.ofText? text = some raw
    ∧ RawJson.ofText? changed = some other
    ∧ Relation.ReflTransGen (Part.Rearranges depthLimit .document) raw other

-----------------------------------------------------------------------------------------
-- Values of arrays and objects
-----------------------------------------------------------------------------------------

namespace RawJson

theorem itemValues?_eq_some_iff {depth : Nat} {items : List RawJson} {values : List Json}
    : itemValues? depth items = some values
      ↔ List.Forall₂ (fun item value => item.value? depth = some value) items values := by
  induction items generalizing values with
  | nil => simp [itemValues?, eq_comm]
  | cons item rest ih =>
      simp only [itemValues?, Option.bind_eq_bind, Option.bind_eq_some_iff, ih, Option.pure_def,
        Option.some.injEq, List.forall₂_cons_left_iff]
      constructor
      · rintro ⟨value, valued, values, others, rfl⟩
        exact ⟨value, values, valued, others, rfl⟩
      · rintro ⟨value, values, valued, others, rfl⟩
        exact ⟨value, valued, values, others, rfl⟩

/-- A member has a key and a value. -/
def MemberValue (depth : Nat) (member : Option String × RawJson) (field : String × Json) : Prop :=
  member.1 = some field.1 ∧ member.2.value? depth = some field.2

theorem memberValues?_eq_some_iff {depth : Nat} {members : List (Option String × RawJson)}
    {fields : List (String × Json)}
    : memberValues? depth members = some fields
      ↔ List.Forall₂ (MemberValue depth) members fields := by
  induction members generalizing fields with
  | nil => simp [memberValues?, eq_comm]
  | cons member rest ih =>
      simp only [memberValues?, Option.bind_eq_bind, Option.bind_eq_some_iff, ih, Option.pure_def,
        Option.some.injEq, List.forall₂_cons_left_iff]
      constructor
      · rintro ⟨key, isKey, value, valued, fields, others, rfl⟩
        exact ⟨(key, value), fields, ⟨isKey, valued⟩, others, rfl⟩
      · rintro ⟨field, fields, ⟨isKey, valued⟩, others, rfl⟩
        exact ⟨field.1, isKey, field.2, valued, fields, others, rfl⟩

theorem value?_array_iff {depth : Nat} {items : List RawJson} {json : Json}
    : (RawJson.array items).value? (depth + 1) = some json
      ↔ ∃ values,
          json = .array values
          ∧ List.Forall₂ (fun item value => item.value? depth = some value) items values := by
  rw [value?, if_neg (Nat.succ_ne_zero depth), Nat.add_sub_cancel, Option.map_eq_some_iff]
  exact exists_congr fun _ => by rw [itemValues?_eq_some_iff, and_comm, eq_comm]

theorem value?_object_iff {depth : Nat} {members : List (Option String × RawJson)} {json : Json}
    : (RawJson.object members).value? (depth + 1) = some json
      ↔ ∃ fields, json = .object fields ∧ List.Forall₂ (MemberValue depth) members fields := by
  rw [value?, if_neg (Nat.succ_ne_zero depth), Nat.add_sub_cancel, Option.map_eq_some_iff]
  exact exists_congr fun _ => by rw [memberValues?_eq_some_iff, and_comm, eq_comm]

end RawJson

/-- Two lists that correspond part by part correspond in front of a part, at it and behind it. -/
theorem forall₂_middle_iff {α β : Type} {related : α → β → Prop} {before after : List α} {part : α}
    {others : List β}
    : List.Forall₂ related (before ++ part :: after) others
      ↔ ∃ front other behind,
          others = front ++ other :: behind
          ∧ List.Forall₂ related before front
          ∧ related part other
          ∧ List.Forall₂ related after behind := by
  constructor
  · intro each
    have front := List.forall₂_take_append _ _ _ each.flip
    have rest := List.forall₂_drop_append _ _ _ each.flip
    obtain ⟨other, behind, here, behindEach, whole⟩ := List.forall₂_cons_right_iff.mp rest
    refine ⟨_, other, behind, ?_, front.flip, here, behindEach.flip⟩
    rw [← whole, List.take_append_drop]
  · rintro ⟨front, other, behind, rfl, frontEach, here, behindEach⟩
    exact List.rel_append frontEach (.cons here behindEach)

-----------------------------------------------------------------------------------------
-- Blanked parts
-----------------------------------------------------------------------------------------

namespace Part
open Document

/-- What is left of a part when all is blanked that a document does not know outside its steps. -/
def blank : Part → RawJson → RawJson
  | .document => blankUnknown
  | .head => changeFields (DocumentMeta.fieldNames.map (·, kept))
  | .data =>
    changeFields [("steps", kept),
      ("variables", changeValues (changeFields (Variable.fieldNames.map (·, kept))))]
  | .bindings => changeValues (changeFields (Variable.fieldNames.map (·, kept)))
  | .binding => changeFields (Variable.fieldNames.map (·, kept))
  | _ => kept

/-- What is left of the value of a member of a record that knows some fields. -/
def blankField (known : List (String × Part)) (member : Option String × RawJson) : RawJson :=
  match member.1.bind (known.lookup ·) with
  | some inner => inner.blank member.2
  | none => .null

/-- What is left of the value of a member: within steps, all of it. -/
def blankValue (part : Part) (member : Option String × RawJson) : RawJson :=
  match part with
  | .document | .head | .data | .binding =>
    blankField ((part.fields? fun _ => none).getD []) member
  | .bindings => blank .binding member.2
  | _ => member.2

theorem mem_of_lookup {α : Type} {fields : List (String × α)} {name : String} {held : α}
    (listed : fields.lookup name = some held)
    : (name, held) ∈ fields := by
  obtain ⟨before, after, rfl, _⟩ := List.lookup_eq_some_iff.mp listed
  exact List.mem_append_right _ List.mem_cons_self

theorem lookup_map {α β : Type} (change : α → β) (name : String) (fields : List (String × α))
    : (fields.map fun field => (field.1, change field.2)).lookup name
      = (fields.lookup name).map change := by
  induction fields with
  | nil => rfl
  | cons field rest ih =>
      obtain ⟨own, held⟩ := field
      simp only [List.map_cons, NameMap.lookup_cons_eq, ih]
      split <;> rfl

/-- A record is blanked member by member. -/
theorem changeFields_object (known : List (String × Part))
    (members : List (Option String × RawJson))
    : changeFields (known.map fun field => (field.1, field.2.blank)) (.object members)
      = .object (members.map fun member => (member.1, blankField known member)) := by
  refine congrArg RawJson.object (List.map_congr_left fun member _ => ?_)
  obtain ⟨_ | key, value⟩ := member
  · rfl
  · simp only [blankField, Option.bind_some, lookup_map]
    cases known.lookup key <;> rfl

theorem blank_object (part : Part) (members : List (Option String × RawJson))
    : part.blank (.object members)
      = .object (members.map fun member => (member.1, part.blankValue member)) := by
  cases part with
  | document => exact changeFields_object [("meta", .head), ("data", .data)] members
  | head => exact changeFields_object [("title", .leaf), ("createdAt", .leaf)] members
  | data => exact changeFields_object [("steps", .steps), ("variables", .bindings)] members
  | binding =>
      exact changeFields_object [("ownerId", .leaf), ("type", .leaf), ("value", .leaf)] members
  | bindings => rfl
  | _ => simp [blank, kept, blankValue]

/-- What stands in an array of parts is blanked each as its part is. -/
theorem blank_array {part inner : Part} {before : List RawJson}
    (held : part.itemPart? before.length = some inner) (after : List RawJson)
    : ∃ front behind,
        front.length = before.length
        ∧ ∀ value,
            part.blank (.array (before ++ value :: after))
            = .array (front ++ inner.blank value :: behind) := by
  unfold itemPart? at held
  split at held <;> simp only [Option.some.injEq, reduceCtorEq] at held <;> subst held
  · exact ⟨before, after, rfl, fun _ => rfl⟩
  · next place =>
      obtain rfl := List.length_eq_zero_iff.mp place
      exact ⟨[], changeEach [blank .data] after, rfl, fun _ => rfl⟩
  · next place =>
      obtain ⟨head, rfl⟩ := List.length_eq_one_iff.mp place
      exact ⟨[blank .head head], changeEach [] after, rfl, fun _ => rfl⟩
  · next place =>
      obtain rfl := List.length_eq_zero_iff.mp place
      exact ⟨[], changeEach [blank .bindings] after, rfl, fun _ => rfl⟩
  · next place =>
      obtain ⟨steps, rfl⟩ := List.length_eq_one_iff.mp place
      exact ⟨[blank .steps steps], changeEach [] after, rfl, fun _ => rfl⟩
  · exact ⟨before, after, rfl, fun _ => rfl⟩
  · exact ⟨before, after, rfl, fun _ => rfl⟩

/-- Where all fields are kept, the value of each one is. -/
theorem blank_of_lookup {inner : Part} {known : List (String × Part)} {name : String}
    (allKept : ∀ field ∈ known, field.2.blank = kept) (listed : known.lookup name = some inner)
    (value : RawJson)
    : value = inner.blank value := by
  rw [allKept (name, inner) (mem_of_lookup listed), kept]

theorem blankValue_of_memberPart? {part inner : Part} {valueOf? : String → Option Json}
    {name : String} (held : part.memberPart? valueOf? name = some inner) (value : RawJson)
    : part.blankValue (some name, value) = inner.blank value := by
  rcases known_of_memberPart? held with ⟨rfl, rfl⟩ | ⟨known, isKnown, listed⟩
  · rfl
  · cases part with
    | document | head | data | binding =>
        obtain rfl := Option.some.inj isKnown
        simp only [blankValue, fields?, Option.getD_some, blankField, Option.bind_some, listed]
    | step | side =>
        simp only [fields?, Option.bind_eq_bind, Option.bind_eq_some_iff, Option.pure_def,
          Option.some.injEq] at isKnown
        obtain ⟨_, _, _, _, rfl⟩ := isKnown
        exact blank_of_lookup (by simp [blank]) listed value
    | condition =>
        obtain rfl := Option.some.inj isKnown
        exact blank_of_lookup (by simp [blank]) listed value
    | payload typeName =>
        obtain rfl := Option.some.inj isKnown
        refine blank_of_lookup (fun field isField => ?_) listed value
        obtain ⟨⟨_, kind⟩, _, rfl⟩ := List.mem_map.mp isField
        cases kind <;> rfl
    | _ => simp [fields?] at isKnown

/-- A member leaves a field: once its value is blanked, it has a key and a value. -/
def Leaves (part : Part) (depth : Nat) (member : Option String × RawJson) (field : String × Json)
    : Prop :=
  MemberValue depth (member.1, part.blankValue member) field

theorem value?_blank_object {part : Part} {depth : Nat}
    {members : List (Option String × RawJson)} {json : Json}
    : (part.blank (.object members)).value? (depth + 1) = some json
      ↔ ∃ fields, json = .object fields ∧ List.Forall₂ (part.Leaves depth) members fields := by
  rw [blank_object, value?_object_iff]
  simp only [List.forall₂_map_left_iff]
  rfl

/-- A member that a record does not know leaves a field, if it has a value at all. -/
theorem exists_leaves {part : Part} {depth : Nat} {valueOf? : String → Option Json}
    {known : List (String × Part)} {name : String} {value : RawJson}
    (isKnown : part.fields? valueOf? = some known) (unknown : name ∉ known.map (·.1))
    (decodable : (value.value? depth).isSome)
    : ∃ json, part.Leaves depth (some name, value) (name, json) := by
  have unlisted : known.lookup name = none := by
    refine Option.eq_none_iff_forall_ne_some.mpr fun inner listed => unknown ?_
    exact List.mem_map_of_mem (mem_of_lookup listed)
  obtain ⟨json, valued⟩ := Option.isSome_iff_exists.mp decodable
  cases part with
  | document | head | data | binding =>
      obtain rfl := Option.some.inj isKnown
      refine ⟨.null, rfl, ?_⟩
      simp only [blankValue, fields?, Option.getD_some, blankField, Option.bind_some, unlisted]
      rfl
  | bindings => simp [fields?] at isKnown
  | _ => exact ⟨json, rfl, valued⟩

/-- The fields of a step and of a side are the values of their members. -/
theorem valueOf?_of_field {part : Part} (isTold : part = .step ∨ part = .side) {depth : Nat}
    {members : List (Option String × RawJson)} {fields : List (String × Json)}
    (each : List.Forall₂ (part.Leaves depth) members fields) (name : String) (value : Json)
    (isField : Field fields name value)
    : valueOf? depth members name = some value := by
  rw [field_iff_filter] at isField
  induction each with
  | nil => simp at isField
  | @cons member field members fields here _ ih =>
      obtain ⟨key, held⟩ := member
      obtain ⟨rfl, valued⟩ : key = some field.1 ∧ held.value? depth = some field.2 := by
        rcases isTold with rfl | rfl <;> exact here
      by_cases same : field.1 = name
      · rw [List.filter_cons_of_pos (by simpa using same)] at isField
        obtain ⟨rfl, _⟩ := List.cons.inj isField
        simp [valueOf?, valued]
      · rw [List.filter_cons_of_neg (by simpa using same)] at isField
        rw [← ih isField]
        simp [valueOf?, List.lookup_cons, beq_eq_false_iff_ne.mpr (Ne.symm same)]

-----------------------------------------------------------------------------------------
-- Rearranged documents
-----------------------------------------------------------------------------------------

/-- One change keeps whatever a part is read as, by induction over the parts around the changed
object.
-/
theorem Rearranges.alike {depth : Nat} {part : Part} {raw changed : RawJson}
    (rearranges : part.Rearranges depth raw changed)
    : ∀ json,
        (part.blank raw).value? depth = some json
        → ∃ other, (part.blank changed).value? depth = some other ∧ part.Alike json other := by
  induction rearranges with
  | permute isKnown same =>
      intro json valued
      obtain ⟨fields, rfl, each⟩ := value?_blank_object.mp valued
      obtain ⟨others, otherEach, sameFields⟩ := List.perm_comp_forall₂ same.symm each
      refine ⟨.object others, value?_blank_object.mpr ⟨others, rfl, otherEach⟩, ?_⟩
      exact alike_of_carries isKnown (valueOf?_of_field · each) fun name inner _ =>
        .of_perm inner.alike_refl sameFields.symm
  | @add _ _ _ _ name _ isKnown unknown decodable =>
      intro json valued
      obtain ⟨fields, rfl, each⟩ := value?_blank_object.mp valued
      obtain ⟨added, leaves⟩ := exists_leaves isKnown unknown decodable
      refine ⟨.object ((name, added) :: fields),
        value?_blank_object.mpr ⟨_, rfl, .cons leaves each⟩, ?_⟩
      refine alike_of_carries isKnown (valueOf?_of_field · each) fun own inner listed => ?_
      refine .of_cons inner.alike_refl fun same => unknown ?_
      obtain rfl : name = own := same
      exact List.mem_map_of_mem (mem_of_lookup listed)
  | @member _ _ _ _ _ name _ _ held _ ih =>
      intro json valued
      obtain ⟨fields, rfl, each⟩ := value?_blank_object.mp valued
      obtain ⟨front, ⟨own, value⟩, behind, rfl, frontEach, ⟨isKey, isValue⟩, behindEach⟩ :=
        forall₂_middle_iff.mp each
      obtain rfl := Option.some.inj isKey
      rw [blankValue_of_memberPart? held] at isValue
      obtain ⟨other, otherValued, alike⟩ := ih value isValue
      rw [← blankValue_of_memberPart? held] at otherValued
      refine ⟨.object (front ++ (name, other) :: behind), value?_blank_object.mpr ⟨_, rfl, ?_⟩,
        alike_of_member held (valueOf?_of_field · each) alike⟩
      exact forall₂_middle_iff.mpr
        ⟨front, (name, other), behind, rfl, frontEach, ⟨rfl, otherValued⟩, behindEach⟩
  | @item _ _ _ _ after _ _ held _ ih =>
      intro json valued
      obtain ⟨left, right, sameLength, blanked⟩ := blank_array held after
      rw [blanked, value?_array_iff] at valued
      obtain ⟨values, rfl, each⟩ := valued
      obtain ⟨front, value, behind, rfl, frontEach, isValue, behindEach⟩ :=
        forall₂_middle_iff.mp each
      obtain ⟨other, otherValued, alike⟩ := ih value isValue
      rw [← sameLength, frontEach.length_eq] at held
      refine ⟨.array (front ++ other :: behind), ?_, alike_of_item held alike⟩
      rw [blanked, value?_array_iff]
      exact ⟨_, rfl, forall₂_middle_iff.mpr
        ⟨front, other, behind, rfl, frontEach, otherValued, behindEach⟩⟩

end Part

namespace Document

/-- Any number of changes keeps the document, by induction over the changes. -/
theorem decoded_of_rearranges {raw changed : RawJson} {document : Document}
    (rearranges : Relation.ReflTransGen (Part.Rearranges depthLimit .document) raw changed)
    (decoded
      : ∃ json, (blankUnknown raw).value? depthLimit = some json ∧ ofJson? json = some document)
    : ∃ json,
        (blankUnknown changed).value? depthLimit = some json ∧ ofJson? json = some document := by
  induction rearranges with
  | refl => exact decoded
  | tail _ change ih =>
      obtain ⟨json, valued, isRead⟩ := ih
      obtain ⟨other, otherValued, alike⟩ := change.alike json valued
      exact ⟨other, otherValued, alike document isRead⟩

/-- A text that is accepted is accepted as the same document however its objects are rearranged. -/
theorem read_rearranged {text changed : String} {document : Document}
    (accepted : read text = .ok document) (rearranged : Rearranged text changed)
    : read changed = .ok document := by
  rw [read_eq_ok_iff] at accepted ⊢
  obtain ⟨decoded, valid⟩ := accepted
  obtain ⟨raw, other, isText, isChanged, rearranges⟩ := rearranged
  simp only [decode?, Option.bind_eq_bind, isText, isChanged, Option.bind_some,
    Option.bind_eq_some_iff] at decoded ⊢
  exact ⟨decoded_of_rearranges rearranges decoded, valid⟩

/-- A document with one conditional, which compares a variable with a text. -/
def comparing : Document :=
  ⟨⟨"T", ⟨⟨2020, 5, 6, 7, 8, 9, 0⟩, by decide⟩⟩,
    ⟨[.statement ⟨1⟩ (.conditional ⟨.variable "a", .equal, .literal "b"⟩) []]⟩, .empty⟩

theorem read_print_comparing : read comparing.print = .ok comparing := by
  have walked
      : comparing.steps.toList
        = [.statement ⟨1⟩ (.conditional ⟨.variable "a", .equal, .literal "b"⟩) []] := by
    rw [StepTree.toList, walk_eq_listingOf]
    rfl
  have valid : comparing.Valid := by
    constructor
    · rw [walked]
      decide
    · rw [walked]
      decide
    · rw [walked]
      decide
    · exact fun _ member => absurd member List.not_mem_nil
  refine (read_print_iff Environment.stored_empty).mpr ⟨valid, ?_, fun _ member => ?_⟩
  · exact Nat.le_of_ble_eq_true rfl
  · exact absurd member List.not_mem_nil

/-- The members of its text, with anything for the left side of the comparison. -/
def comparingMembers (left : Json) : List (String × Json) :=
  [("meta", comparing.head.toJson),
    ("data", .object [
      ("steps", .array [Step.record ⟨1⟩ "conditional" (.object [
        ("condition", .object [
          ("leftSide", left),
          ("operator", .string "equal"),
          ("rightSide", (ConditionSide.literal "b").toJson)]),
        ("steps", .array [])])]),
      ("variables", .object [])])]

/-- Its text with the data in front, and the origin of the left side behind a note and the name. -/
def notedText : String :=
  (Json.object (comparingMembers
    (.object [("note", .array [.null]), ("readFrom", .string "a"), ("origin", .string "variable")])
    ).reverse).pretty

/-- A change of the left side is one of the text. -/
theorem rearranges_left {left changed : Json}
    (rearranges : Part.Rearranges 121 .side left.reread changed.reread)
    : Part.Rearranges depthLimit .document (Json.object (comparingMembers left)).reread
        (Json.object (comparingMembers changed)).reread := by
  refine @Part.Rearranges.member 126 .document .data [_] [] "data" _ _ rfl ?_
  refine @Part.Rearranges.member 125 .data .steps [] [_] "steps" _ _ rfl ?_
  refine @Part.Rearranges.item 124 .steps .step [] [] _ _ rfl ?_
  refine @Part.Rearranges.member 123 .step (.payload "conditional") [_, _] [] "data" _ _ rfl ?_
  refine @Part.Rearranges.member 122 (.payload "conditional") .condition [] [_] "condition" _ _ rfl
    ?_
  exact @Part.Rearranges.member 121 .condition .side [] [_, _] "leftSide" _ _ rfl rearranges

theorem rearranged_notedText : Rearranged comparing.print notedText := by
  refine ⟨_, _, ofText?_print JsonLayout.indented_blank 0 _,
    ofText?_print JsonLayout.indented_blank 0 _, ?_⟩
  have swapped
      : Part.Rearranges 121 .side (ConditionSide.variable "a").toJson.reread
          (Json.object [("readFrom", .string "a"), ("origin", .string "variable")]).reread :=
    .permute rfl (.swap ..)
  have noted
      : Part.Rearranges 121 .side
          (Json.object [("readFrom", .string "a"), ("origin", .string "variable")]).reread
          (Json.object [("note", .array [.null]), ("readFrom", .string "a"),
            ("origin", .string "variable")]).reread :=
    .add rfl (by decide) rfl
  refine .tail (.tail (.single (rearranges_left swapped)) (rearranges_left noted)) ?_
  exact .permute rfl (.swap ..)

/-- The text with the note is accepted as the same document. -/
theorem read_rearranged_noted
    : read comparing.print = .ok comparing
      ∧ Rearranged comparing.print notedText
      ∧ read notedText = .ok comparing :=
  ⟨read_print_comparing, rearranged_notedText,
    read_rearranged read_print_comparing rearranged_notedText⟩

end Document

end DesktopAutomation
