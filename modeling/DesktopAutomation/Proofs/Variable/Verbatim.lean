import DesktopAutomation.Proofs.Variable.RoundTrip
import Mathlib.Data.List.Forall2

/-! Variables keep JSON values as they are. Only texts, lists and null are told apart, down to every
depth of lists; all else is held as it came, with whatever it holds. So each JSON value is written
as it was read, and a value of a variable is read as it was written unless it holds a text, a list
or null in the place for other JSON.
-/

namespace DesktopAutomation

-----------------------------------------------------------------------------------------
-- JSON values
-----------------------------------------------------------------------------------------

namespace Json

/-- A JSON value for itself, apart from how it is written: within every object at any depth, the
members stand in the order of their keys, and each key once.
-/
inductive Ordered : Json → Prop
  | null : Ordered .null
  | bool (value : Bool) : Ordered (.bool value)
  | number (value : JsonNumber) : Ordered (.number value)
  | string (value : String) : Ordered (.string value)
  | array {items : List Json} (each : ∀ item ∈ items, Ordered item) : Ordered (.array items)
  | object {members : List (String × Json)} (sorted : NamesSorted members)
    (each : ∀ member ∈ members, Ordered member.2)
    : Ordered (.object members)

theorem ordered_array_iff {items : List Json}
    : (array items).Ordered ↔ ∀ item ∈ items, item.Ordered := by
  constructor
  · intro ordered
    cases ordered with
    | array each => exact each
  · exact .array

theorem ordered_object_iff {members : List (String × Json)}
    : (object members).Ordered ↔ NamesSorted members ∧ ∀ member ∈ members, member.2.Ordered := by
  constructor
  · intro ordered
    cases ordered with
    | object sorted each => exact ⟨sorted, each⟩
  · rintro ⟨sorted, each⟩
    exact .object sorted each

theorem namesSorted_mapValues (change : Json → Json) {members : List (String × Json)}
    : NamesSorted (mapValues change members) ↔ NamesSorted members := by
  rw [NamesSorted, NamesSorted, mapValues, List.pairwise_map]

/-- The values for themselves are the canonical ones. -/
theorem ordered_iff_canonical (json : Json) : json.Ordered ↔ json.canonical = json := by
  induction json using induction with
  | null => exact ⟨fun _ => rfl, fun _ => .null⟩
  | bool value => exact ⟨fun _ => rfl, fun _ => .bool value⟩
  | number value => exact ⟨fun _ => rfl, fun _ => .number value⟩
  | string value => exact ⟨fun _ => rfl, fun _ => .string value⟩
  | array items ih =>
      rw [ordered_array_iff, canonical, canonicalItems_eq, array.injEq, map_eq_self_iff]
      exact forall₂_congr ih
  | object members ih =>
      have settled
          : (∀ member ∈ members, member.2.Ordered) ↔ mapValues canonical members = members := by
        rw [mapValues_eq_self_iff]
        exact forall₂_congr ih
      rw [ordered_object_iff, settled, canonical, canonicalMembers_eq, object.injEq]
      constructor
      · rintro ⟨sorted, kept⟩
        rw [kept]
        exact insertAll_of_sorted [] sorted
      · intro same
        have sorted : NamesSorted members := by
          rw [← same]
          exact insertAll_sorted .nil _
        refine ⟨sorted, Eq.trans ?_ same⟩
        exact (insertAll_of_sorted [] ((namesSorted_mapValues canonical).mpr sorted)).symm

end Json

-----------------------------------------------------------------------------------------
-- Values of variables
-----------------------------------------------------------------------------------------

namespace VariableValue
open Json

/-- A value of a variable holds a JSON value: a string as text, an array as a list item by item,
null as null, and all else as it is.
-/
inductive Keeps : Json → VariableValue → Prop
  | text (value : String) : Keeps (.string value) (.text value)
  | list {items : List Json} {values : List VariableValue} (each : List.Forall₂ Keeps items values)
    : Keeps (.array items) (.list values)
  | null : Keeps .null .null
  | number (value : JsonNumber) : Keeps (.number value) (.other (.number value))
  | bool (value : Bool) : Keeps (.bool value) (.other (.bool value))
  | object (members : List (String × Json)) : Keeps (.object members) (.other (.object members))

/-- What a value holds as other JSON, at any depth of lists, is a JSON value that is not itself a
text, a list or null.
-/
inductive Plain : VariableValue → Prop
  | text (value : String) : Plain (.text value)
  | list {values : List VariableValue} (each : ∀ value ∈ values, Plain value)
    : Plain (.list values)
  | null : Plain .null
  | other {json : Json} (ordered : json.Ordered) (noText : ∀ text, json ≠ .string text)
    (noList : ∀ items, json ≠ .array items) (noNull : json ≠ .null)
    : Plain (.other json)

/-- One list is the other changed part by part if this holds of all parts. -/
theorem forall₂_iff_eq_map {α β : Type} {related : α → β → Prop} {change : α → β} {parts : List α}
    (each : ∀ part ∈ parts, ∀ other, related part other ↔ other = change part) (others : List β)
    : List.Forall₂ related parts others ↔ others = parts.map change := by
  induction parts generalizing others with
  | nil => simp
  | cons part rest ih =>
      obtain ⟨here, behind⟩ := List.forall_mem_cons.mp each
      simp [List.forall₂_cons_left_iff, here, ih behind]

/-- A JSON value is held by the one value of a variable that it names. -/
theorem keeps_iff {json : Json} (ordered : json.Ordered) (value : VariableValue)
    : Keeps json value ↔ value = ofJson json := by
  induction json using Json.induction generalizing value with
  | null | bool _ | number _ | string _ =>
      constructor
      · rintro ⟨⟩
        rfl
      · rintro rfl
        constructor
  | array items ih =>
      have each := ordered_array_iff.mp ordered
      have parts := forall₂_iff_eq_map fun item isItem => ih item isItem (each item isItem)
      rw [ofJson, ofItems_eq]
      constructor
      · rintro ⟨⟩
        next kept => rw [(parts _).mp kept]
      · rintro rfl
        exact .list ((parts _).mpr rfl)
  | object members _ =>
      have kept : ofJson (.object members) = .other (.object members) :=
        congrArg other ((ordered_iff_canonical _).mp ordered)
      rw [kept]
      constructor
      · rintro ⟨⟩
        rfl
      · rintro rfl
        constructor

/-- What JSON names is plain. -/
theorem plain_ofJson (json : Json) : (ofJson json).Plain := by
  have ordered (json : Json) : json.canonical.Ordered :=
    (ordered_iff_canonical _).mpr (canonical_canonical json)
  induction json using Json.induction with
  | null => exact .null
  | string value => exact .text value
  | bool _ | number _ | object _ _ =>
      exact .other (ordered _) (by simp [canonical]) (by simp [canonical]) (by simp [canonical])
  | array items ih =>
      rw [ofJson, ofItems_eq]
      exact .list (List.forall_mem_map.mpr ih)

/-- A plain value is read as it was written, by induction over its lists. -/
theorem Plain.stored {value : VariableValue} (plain : value.Plain) : value.Stored := by
  induction plain with
  | text | null => rfl
  | @list values _ ih =>
      have written (values : List VariableValue) : itemsToJson values = values.map toJson := by
        induction values with
        | nil => rfl
        | cons value rest ih => rw [itemsToJson, ih, List.map_cons]
      rw [Stored, toJson, ofJson, ofItems_eq, written, List.map_map]
      exact congrArg VariableValue.list (map_eq_self_iff.mpr ih)
  | @other json ordered noText noList noNull =>
      have kept := (ordered_iff_canonical json).mp ordered
      cases json with
      | null => exact absurd rfl noNull
      | string text => exact absurd rfl (noText text)
      | array items => exact absurd rfl (noList items)
      | _ => exact congrArg VariableValue.other kept

/-- Every JSON value names a value of a variable that holds it part by part, and that is written as
the same JSON value. The values of variables that are read as they were written are the plain ones.
-/
theorem verbatim
    : (∀ json : Json,
        json.Ordered
        → (∀ value, Keeps json value ↔ value = ofJson json) ∧ (ofJson json).toJson = json)
      ∧ ∀ value, ofJson value.toJson = value ↔ value.Plain := by
  constructor
  · intro json ordered
    refine ⟨keeps_iff ordered, ?_⟩
    rw [toJson_ofJson]
    exact (ordered_iff_canonical json).mp ordered
  · intro value
    constructor
    · intro same
      rw [← same]
      exact plain_ofJson _
    · exact Plain.stored

/-- A list with an empty object, null, a list and an object that holds an array. -/
def mixedList : Json :=
  .array [.object [], .null, .array [.string "x", .number (.negative ⟨3, by decide⟩)],
    .object [("a", .null), ("b", .array [.string "y"])]]

/-- The list is held item by item; what the objects hold stays as it is. -/
theorem verbatim_mixedList
    : mixedList.Ordered
      ∧ ofJson mixedList
        = .list [.other (.object []), .null,
            .list [.text "x", .other (.number (.negative ⟨3, by decide⟩))],
            .other (.object [("a", .null), ("b", .array [.string "y"])])]
      ∧ (ofJson mixedList).toJson = mixedList := by
  have ordered : mixedList.Ordered := (ordered_iff_canonical _).mpr rfl
  obtain ⟨holds, written⟩ := verbatim.1 mixedList ordered
  refine ⟨ordered, ((holds _).mp ?_).symm, written⟩
  refine .list (.cons (.object _) (.cons .null (.cons (.list ?_) (.cons (.object _) .nil))))
  exact .cons (.text "x") (.cons (.number _) .nil)

end VariableValue

end DesktopAutomation
