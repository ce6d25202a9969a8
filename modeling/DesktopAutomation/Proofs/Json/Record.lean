import DesktopAutomation.Json.Record
import DesktopAutomation.Proofs.Json.Canonical

/-! Records, and how they may be written. A field is read exactly if it stands once in a record,
and it nests less deep than the record, however the record is written.
-/

namespace DesktopAutomation.Json

-----------------------------------------------------------------------------------------
-- How records are written
-----------------------------------------------------------------------------------------

/-- A field stands among members with a value, and no other member has its name. -/
def Field (members : List (String × Json)) (name : String) (value : Json) : Prop :=
  ∃ before after,
    members = before ++ (name, value) :: after ∧ ∀ other ∈ before ++ after, other.1 ≠ name

/-- A record is written as an object, or as an array of its first fields in their order. -/
inductive Record (names : List String) : Json → List (String × Json) → Prop
  | object (members : List (String × Json)) : Record names (.object members) members
  | array (items : List Json) (few : items.length ≤ names.length)
    : Record names (.array items) (names.zip items)

/-- A name of a closed set is written within a step as a string, or as the key of an object that has
no other key and an empty value.
-/
inductive Names (name : String) : Json → Prop
  | string : Names name (.string name)
  | null : Names name (.object [(name, .null)])
  | object : Names name (.object [(name, .object [])])

/-- A name that stands once is all that is left of the members with this name. -/
theorem field_iff_filter {name : String} {members : List (String × Json)} {value : Json}
    : Field members name value ↔ members.filter (·.1 == name) = [(name, value)] := by
  constructor
  · rintro ⟨before, after, rfl, others⟩
    obtain ⟨noneBefore, noneAfter⟩ := List.forall_mem_append.mp others
    rw [List.filter_append, List.filter_cons_of_pos (by simp)]
    rw [List.filter_eq_nil_iff.mpr (by simpa using noneBefore),
      List.filter_eq_nil_iff.mpr (by simpa using noneAfter), List.nil_append]
  · intro only
    obtain ⟨before, after, rfl, none, _, others⟩ := List.filter_eq_cons_iff.mp only
    refine ⟨before, after, rfl, List.forall_mem_append.mpr ⟨?_, ?_⟩⟩
    · simpa using none
    · simpa using List.filter_eq_nil_iff.mp others

/-- The only member with a name holds the value of the field. -/
theorem field_iff_of_filter {name : String} {members : List (String × Json)}
    {member : String × Json} (only : members.filter (·.1 == name) = [member]) {value : Json}
    : Field members name value ↔ member.2 = value := by
  have named : member.1 = name := by
    have chosen : member ∈ members.filter (·.1 == name) := by
      rw [only]
      exact List.mem_singleton_self member
    simpa using (List.mem_filter.mp chosen).2
  simp [field_iff_filter, only, Prod.ext_iff, named]

/-- A required field is read exactly if it stands once. -/
theorem required?_eq_some_iff {name : String} {members : List (String × Json)} {value : Json}
    : required? name members = some value ↔ Field members name value := by
  rw [required?]
  split
  · next only => rw [Option.some.injEq, field_iff_of_filter only]
  · next several => simpa [field_iff_filter] using fun only => several _ only

/-- An optional field has a value exactly if it stands once. -/
theorem optional?_eq_some_some_iff {name : String} {members : List (String × Json)} {value : Json}
    : optional? name members = some (some value) ↔ Field members name value := by
  rw [optional?]
  split
  · next none => simp [field_iff_filter, none]
  · next only => rw [Option.some.injEq, Option.some.injEq, field_iff_of_filter only]
  · next several => simpa [field_iff_filter] using fun only => several _ only

/-- An optional field is left out exactly if no member has its name. -/
theorem optional?_eq_some_none_iff {name : String} {members : List (String × Json)}
    : optional? name members = some none ↔ members.filter (·.1 == name) = [] := by
  rw [optional?]
  split
  · next none => simp only [none]
  · next only => simp [only]
  · next absent _ => exact ⟨fun read => by simp at read, fun none => absurd none absent⟩

/-- A field has one value. -/
theorem Field.unique {members : List (String × Json)} {name : String} {value other : Json}
    (isField : Field members name value) (again : Field members name other)
    : value = other := by
  rw [← required?_eq_some_iff] at isField again
  exact Option.some.inj (isField.symm.trans again)

theorem members?_eq_some_iff {json : Json} {members : List (String × Json)}
    : json.members? = some members ↔ json = .object members := by
  cases json <;> simp [members?]

theorem items?_eq_some_iff {json : Json} {items : List Json}
    : json.items? = some items ↔ json = .array items := by
  cases json <;> simp [items?]

theorem string?_eq_some_iff {json : Json} {text : String}
    : json.string? = some text ↔ json = .string text := by
  cases json <;> simp [string?]

theorem bool?_eq_some_iff {json : Json} {value : Bool}
    : json.bool? = some value ↔ json = .bool value := by
  cases json <;> simp [bool?]

theorem word?_eq_some_iff {json : Json} {value : UInt64}
    : json.word? = some value ↔ json = .number (.natural value) := by
  cases json with
  | number number => cases number <;> simp [word?]
  | _ => simp [word?]

/-- The fields of a record are those of an object, or the items of an array in the order of the
names.
-/
theorem fields?_eq_some_iff {names : List String} {json : Json}
    {fields : List (String × Json)}
    : json.fields? names = some fields ↔ Record names json fields := by
  constructor
  · intro read
    cases json with
    | object members =>
        obtain rfl := Option.some.inj read
        exact .object members
    | array items =>
        rw [fields?, Option.ite_none_right_eq_some] at read
        obtain ⟨few, made⟩ := read
        obtain rfl := Option.some.inj made
        exact .array items few
    | _ => simp [fields?] at read
  · rintro (⟨members⟩ | ⟨items, few⟩)
    · rfl
    · rw [fields?, if_pos few]

/-- A name is written within a step as a text, or as the one member of an object with nothing in it.
-/
theorem name?_eq_some_iff {json : Json} {name : String}
    : json.name? .withinStep = some name ↔ Names name json := by
  constructor
  · intro read
    unfold name? at read
    split at read
    · obtain rfl := Option.some.inj read
      exact .string
    · obtain rfl := Option.some.inj read
      exact .null
    · obtain rfl := Option.some.inj read
      exact .object
    · simp at read
  · rintro (_ | _ | _) <;> rfl

/-- A value is a record of the names in one way. -/
theorem Record.unique {names : List String} {json : Json} {fields others : List (String × Json)}
    (isRecord : Record names json fields) (again : Record names json others)
    : fields = others := by
  rw [← fields?_eq_some_iff] at isRecord again
  exact Option.some.inj (isRecord.symm.trans again)

/-- A value names one name. -/
theorem Names.unique {json : Json} {name other : String} (named : Names name json)
    (again : Names other json)
    : name = other := by
  rw [← name?_eq_some_iff] at named again
  exact Option.some.inj (named.symm.trans again)

-----------------------------------------------------------------------------------------
-- Depth
-----------------------------------------------------------------------------------------

/-- A required field is one of the members. -/
theorem mem_of_required? {name : String} {members : List (String × Json)} {value : Json}
    (found : required? name members = some value)
    : (name, value) ∈ members := by
  obtain ⟨before, after, rfl, _⟩ := required?_eq_some_iff.mp found
  exact List.mem_append_right _ List.mem_cons_self

/-- A required field nests no deeper than the members do. -/
theorem depth_of_required? {name : String} {members : List (String × Json)} {value : Json}
    (found : required? name members = some value)
    : value.depth ≤ membersDepth members :=
  membersDepth_le_iff.mp (Nat.le_refl _) _ (mem_of_required? found)

/-- An object nests one deeper than its members. -/
theorem depth_of_members? {json : Json} {members : List (String × Json)}
    (read : json.members? = some members)
    : json.depth = membersDepth members + 1 := by
  cases json <;> simp only [members?, Option.some.injEq, reduceCtorEq] at read
  rw [read, depth]

/-- A record is an object or an array with its fields. -/
theorem depth_of_fields? {names : List String} {json : Json} {fields : List (String × Json)}
    (read : json.fields? names = some fields)
    : membersDepth fields + 1 ≤ json.depth := by
  cases json with
  | object members =>
      obtain rfl := Option.some.inj read
      exact Nat.le_refl _
  | array items =>
      rw [fields?, Option.ite_none_right_eq_some] at read
      obtain rfl := Option.some.inj read.2
      rw [depth]
      refine Nat.succ_le_succ (membersDepth_le_iff.mpr fun member isMember => ?_)
      exact itemsDepth_le_iff.mp (Nat.le_refl _) _ (List.of_mem_zip isMember).2
  | _ => simp [fields?] at read

end DesktopAutomation.Json
