import DesktopAutomation.Json.Basic
import DesktopAutomation.Proofs.NameMap

/-! Canonical JSON values: no form is more canonical than a canonical one.
The canonical form drops and moves members only, so it nests no deeper and brings no number, and it
does not depend on what the numbers within are.
-/

namespace DesktopAutomation.Json

/-- What holds of a value if it holds of its items or members holds of all values. -/
theorem induction {holds : Json → Prop} (null : holds .null) (bool : ∀ value, holds (.bool value))
    (number : ∀ value, holds (.number value)) (string : ∀ value, holds (.string value))
    (array : ∀ items, (∀ item ∈ items, holds item) → holds (.array items))
    (object : ∀ members, (∀ member ∈ members, holds member.2) → holds (.object members))
    : ∀ json : Json, holds json
  | .null => null
  | .bool value => bool value
  | .number value => number value
  | .string value => string value
  | .array items =>
      array items fun item _ => induction null bool number string array object item
  | .object members =>
      object members fun (_, value) _ => induction null bool number string array object value
termination_by json => json
decreasing_by
  · next member =>
      have smaller := List.sizeOf_lt_of_mem member
      simp only [Json.array.sizeOf_spec]
      omega
  · next isMember =>
      have smaller := List.sizeOf_lt_of_mem isMember
      simp only [Json.object.sizeOf_spec, Prod.mk.sizeOf_spec] at smaller ⊢
      omega

/-- Members with changed values. -/
def mapValues (change : Json → Json) (members : List (String × Json)) : List (String × Json) :=
  members.map fun member => (member.1, change member.2)

/-- A list that a change of each part leaves as it is. -/
theorem map_eq_self_iff {α : Type} {change : α → α} {parts : List α}
    : parts.map change = parts ↔ ∀ part ∈ parts, change part = part := by
  conv =>
    lhs
    rhs
    rw [← List.map_id parts]
  exact List.map_inj_left

theorem mapValues_eq_self_iff {change : Json → Json} {members : List (String × Json)}
    : mapValues change members = members ↔ ∀ member ∈ members, change member.2 = member.2 := by
  rw [mapValues, map_eq_self_iff]
  exact forall₂_congr fun member _ => by simp [Prod.ext_iff]

theorem canonicalItems_eq (items : List Json) : canonicalItems items = items.map canonical := by
  induction items with
  | nil => rfl
  | cons item rest ih => rw [canonicalItems, ih, List.map_cons]

theorem canonicalMembers_eq (sorted members : List (String × Json))
    : canonicalMembers sorted members = insertAll sorted (mapValues canonical members) := by
  induction members generalizing sorted with
  | nil => rfl
  | cons member rest ih => exact ih _

/-- The canonical members are members with canonical values. -/
theorem mem_canonicalMembers {members : List (String × Json)} {member : String × Json}
    (isMember : member ∈ canonicalMembers [] members)
    : ∃ old ∈ members, member = (old.1, old.2.canonical) := by
  rw [canonicalMembers_eq] at isMember
  obtain ⟨old, isOld, same⟩ :=
    List.mem_map.mp ((mem_insertAll isMember).resolve_left List.not_mem_nil)
  exact ⟨old, isOld, same.symm⟩

theorem canonical_canonical (json : Json) : json.canonical.canonical = json.canonical := by
  induction json using induction with
  | null | bool _ | number _ | string _ => rfl
  | array items ih =>
      rw [canonical, canonical, canonicalItems_eq, canonicalItems_eq, List.map_map]
      exact congrArg array (List.map_congr_left ih)
  | object members ih =>
      have settled
          : mapValues canonical (canonicalMembers [] members) = canonicalMembers [] members := by
        refine mapValues_eq_self_iff.mpr fun member isMember => ?_
        obtain ⟨old, isOld, rfl⟩ := mem_canonicalMembers isMember
        exact ih old isOld
      have sorted : NamesSorted (canonicalMembers [] members) := by
        rw [canonicalMembers_eq]
        exact insertAll_sorted .nil _
      rw [canonical, canonical, canonicalMembers_eq, settled]
      exact congrArg object (insertAll_of_sorted [] sorted)

mutual

/-- The number of arrays and objects within each other. -/
def depth : Json → Nat
  | .array items => itemsDepth items + 1
  | .object members => membersDepth members + 1
  | _ => 0

/-- The depth of the deepest item. -/
def itemsDepth : List Json → Nat
  | [] => 0
  | item :: rest => max item.depth (itemsDepth rest)

/-- The depth of the deepest member. -/
def membersDepth : List (String × Json) → Nat
  | [] => 0
  | (_, value) :: rest => max value.depth (membersDepth rest)

end

theorem itemsDepth_le_iff {items : List Json} {limit : Nat}
    : itemsDepth items ≤ limit ↔ ∀ item ∈ items, item.depth ≤ limit := by
  induction items with
  | nil => simp [itemsDepth]
  | cons first rest ih => rw [itemsDepth, Nat.max_le, ih, List.forall_mem_cons]

theorem membersDepth_le_iff {members : List (String × Json)} {limit : Nat}
    : membersDepth members ≤ limit ↔ ∀ member ∈ members, member.2.depth ≤ limit := by
  induction members with
  | nil => simp [membersDepth]
  | cons first rest ih => rw [membersDepth, Nat.max_le, ih, List.forall_mem_cons]

/-- The canonical form nests no deeper. -/
theorem depth_canonical_le (json : Json) : json.canonical.depth ≤ json.depth := by
  induction json using induction with
  | null | bool _ | number _ | string _ => exact Nat.le_refl _
  | array items ih =>
      rw [canonical, depth, depth, canonicalItems_eq]
      refine Nat.succ_le_succ
        (itemsDepth_le_iff.mpr (List.forall_mem_map.mpr fun item member => ?_))
      exact Nat.le_trans (ih item member) (itemsDepth_le_iff.mp (Nat.le_refl _) item member)
  | object members ih =>
      rw [canonical, depth, depth]
      refine Nat.succ_le_succ (membersDepth_le_iff.mpr fun member isMember => ?_)
      obtain ⟨old, isOld, rfl⟩ := mem_canonicalMembers isMember
      exact Nat.le_trans (ih old isOld) (membersDepth_le_iff.mp (Nat.le_refl _) old isOld)

mutual

/-- The numbers within a value. -/
def numbers : Json → List JsonNumber
  | .number value => [value]
  | .array items => itemsNumbers items
  | .object members => membersNumbers members
  | _ => []

/-- The numbers within items. -/
def itemsNumbers : List Json → List JsonNumber
  | [] => []
  | item :: rest => item.numbers ++ itemsNumbers rest

/-- The numbers within members. -/
def membersNumbers : List (String × Json) → List JsonNumber
  | [] => []
  | (_, value) :: rest => value.numbers ++ membersNumbers rest

end

theorem mem_itemsNumbers {items : List Json} {number : JsonNumber}
    : number ∈ itemsNumbers items ↔ ∃ item ∈ items, number ∈ item.numbers := by
  induction items with
  | nil => simp [itemsNumbers]
  | cons first rest ih => simp [itemsNumbers, ih]

theorem mem_membersNumbers {members : List (String × Json)} {number : JsonNumber}
    : number ∈ membersNumbers members ↔ ∃ member ∈ members, number ∈ member.2.numbers := by
  induction members with
  | nil => simp [membersNumbers]
  | cons first rest ih => simp [membersNumbers, ih]

mutual

/-- The value with its numbers changed. -/
def mapNumbers (change : JsonNumber → JsonNumber) : Json → Json
  | .number value => .number (change value)
  | .array items => .array (mapItemsNumbers change items)
  | .object members => .object (mapMembersNumbers change members)
  | json => json

/-- The items with their numbers changed. -/
def mapItemsNumbers (change : JsonNumber → JsonNumber) : List Json → List Json
  | [] => []
  | item :: rest => item.mapNumbers change :: mapItemsNumbers change rest

/-- The members with their numbers changed. -/
def mapMembersNumbers (change : JsonNumber → JsonNumber)
    : List (String × Json) → List (String × Json)
  | [] => []
  | (key, value) :: rest => (key, value.mapNumbers change) :: mapMembersNumbers change rest

end

theorem mapItemsNumbers_eq (change : JsonNumber → JsonNumber) (items : List Json)
    : mapItemsNumbers change items = items.map (mapNumbers change) := by
  induction items with
  | nil => rfl
  | cons item rest ih => rw [mapItemsNumbers, ih, List.map_cons]

theorem mapMembersNumbers_eq (change : JsonNumber → JsonNumber) (members : List (String × Json))
    : mapMembersNumbers change members = mapValues (mapNumbers change) members := by
  induction members with
  | nil => rfl
  | cons member rest ih => rw [mapMembersNumbers, ih]; rfl

/-- A change of the numbers that changes nothing keeps every number. -/
theorem mapNumbers_eq_self_iff (change : JsonNumber → JsonNumber) (json : Json)
    : json.mapNumbers change = json ↔ ∀ number ∈ json.numbers, change number = number := by
  induction json using induction with
  | null | bool _ | number _ | string _ => simp [mapNumbers, numbers]
  | array items ih =>
      rw [mapNumbers, mapItemsNumbers_eq, numbers, array.injEq, map_eq_self_iff]
      simp only [mem_itemsNumbers, forall_exists_index, and_imp]
      rw [forall₂_congr ih]
      constructor
      · intro all number item member
        exact all item member number
      · intro all item member number
        exact all number item member
  | object members ih =>
      rw [mapNumbers, mapMembersNumbers_eq, numbers, object.injEq, mapValues_eq_self_iff]
      simp only [mem_membersNumbers, forall_exists_index, and_imp]
      rw [forall₂_congr ih]
      constructor
      · intro all number member isMember
        exact all member isMember number
      · intro all member isMember number
        exact all number member isMember

/-- The canonical form does not depend on the numbers. -/
theorem canonical_mapNumbers (change : JsonNumber → JsonNumber) (json : Json)
    : (json.mapNumbers change).canonical = json.canonical.mapNumbers change := by
  induction json using induction with
  | null | bool _ | number _ | string _ => rfl
  | array items ih =>
      rw [mapNumbers, canonical, canonical, mapNumbers, canonicalItems_eq, canonicalItems_eq,
        mapItemsNumbers_eq, mapItemsNumbers_eq, List.map_map, List.map_map]
      exact congrArg array (List.map_congr_left ih)
  | object members ih =>
      rw [mapNumbers, canonical, canonical, mapNumbers, canonicalMembers_eq, canonicalMembers_eq,
        mapMembersNumbers_eq, mapMembersNumbers_eq]
      refine congrArg object (Eq.trans ?_ (insertAll_map (mapNumbers change) [] _))
      simp only [mapValues, List.map_map, List.map_nil]
      refine congrArg (insertAll []) (List.map_congr_left fun member isMember => ?_)
      exact Prod.ext rfl (ih member isMember)

end DesktopAutomation.Json
