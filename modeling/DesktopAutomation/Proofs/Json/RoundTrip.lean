import DesktopAutomation.Json.Raw
import DesktopAutomation.Proofs.Json.Canonical
import DesktopAutomation.Proofs.Json.Lexing

/-! Printed values read back. The tree of a printed text is the value with each number as it reads
back; it has this value if the value nests no deeper than allowed and its numbers survive.
-/

namespace DesktopAutomation

namespace Json

mutual

/-- The tree of a printed value. -/
def reread : Json → RawJson
  | .null => .null
  | .bool value => .bool value
  | .number value => .number value.reread?
  | .string value => .string (some value)
  | .array items => .array (rereadItems items)
  | .object members => .object (rereadMembers members)

/-- The trees of printed items. -/
def rereadItems : List Json → List RawJson
  | [] => []
  | item :: rest => item.reread :: rereadItems rest

/-- The trees of printed members. -/
def rereadMembers : List (String × Json) → List (Option String × RawJson)
  | [] => []
  | (key, value) :: rest => (some key, value.reread) :: rereadMembers rest

end

theorem rereadMembers_eq_map (members : List (String × Json))
    : rereadMembers members = members.map fun (key, value) => (some key, value.reread) := by
  induction members with
  | nil => rfl
  | cons member rest ih => rw [rereadMembers, ih, List.map_cons]

end Json

namespace RawJson
open Json JsonToken

/-- The first item of an array is read like any other value. -/
theorem Builder.read?_firstItem {token : JsonToken} (opens : token ≠ .closeArray)
    (stack : List Frame)
    : Builder.read? (.firstItem stack) token
      = Builder.read? (.value (.array [] :: stack)) token := by
  cases token <;> first | rfl | exact absurd rfl opens

/-- No value starts with the end of an array. -/
theorem tokens_start (json : Json)
    : ∃ token rest, json.tokens = token :: rest ∧ token ≠ .closeArray := by
  cases json <;> exact ⟨_, _, rfl, by simp⟩

mutual

/-- The tokens of a value complete the tree of the value, within any open arrays and objects. -/
theorem foldlM_tokens (stack : List Frame)
    : ∀ json : Json,
        json.tokens.foldlM Builder.read? (.value stack) = some (.complete json.reread stack)
  | .null => rfl
  | .bool _ => rfl
  | .number _ => rfl
  | .string _ => rfl
  | .array [] => rfl
  | .array (item :: rest) => by
      -- the state behind `[` also takes `]`, which the first token of an item is not
      obtain ⟨token, behind, starts, opens⟩ := tokens_start item
      have first := foldlM_tokens (.array [] :: stack) item
      rw [starts, List.foldlM_cons, ← Builder.read?_firstItem opens, ← List.foldlM_cons, ← starts]
        at first
      have others := foldlM_itemTokens [] item.reread stack rest
      simp only [tokens, itemTokens, reread, rereadItems, List.cons_append, List.nil_append,
        List.append_assoc, if_true]
      show (item.tokens ++ _).foldlM Builder.read? (.firstItem stack) = _
      rw [List.foldlM_append, first]
      simpa [Builder.complete] using others
  | .object [] => rfl
  | .object ((key, value) :: rest) => by
      have first := foldlM_tokens (.object [] (some key) :: stack) value
      have others := foldlM_memberTokens [] (some key) value.reread stack rest
      simp only [tokens, memberTokens, reread, rereadMembers, List.cons_append, List.nil_append,
        List.append_assoc, if_true]
      show (value.tokens ++ _).foldlM Builder.read? (.value (.object [] (some key) :: stack)) = _
      rw [List.foldlM_append, first]
      simpa [Builder.complete] using others

/-- Behind an item, further items and the end of the array complete it. -/
theorem foldlM_itemTokens (reversed : List RawJson) (node : RawJson) (stack : List Frame)
    : ∀ items : List Json,
        (itemTokens false items ++ [JsonToken.closeArray]).foldlM Builder.read?
            (.next (.array reversed) node stack)
          = some (.complete (.array ((node :: reversed).reverse ++ rereadItems items)) stack)
  | [] => by simp [itemTokens, rereadItems, Builder.read?]
  | item :: rest => by
      have first := foldlM_tokens (.array (node :: reversed) :: stack) item
      have others := foldlM_itemTokens (node :: reversed) item.reread stack rest
      simp only [itemTokens, rereadItems, List.append_assoc, Bool.false_eq_true, if_false]
      show (item.tokens ++ _).foldlM Builder.read? (.value (.array (node :: reversed) :: stack)) = _
      rw [List.foldlM_append, first]
      simpa [Builder.complete] using others

/-- Behind a member, further members and the end of the object complete it. -/
theorem foldlM_memberTokens (reversed : List (Option String × RawJson)) (label : Option String)
    (node : RawJson) (stack : List Frame)
    : ∀ members : List (String × Json),
        (memberTokens false members ++ [JsonToken.closeObject]).foldlM Builder.read?
            (.next (.object reversed label) node stack)
          = some
              (.complete (.object (((label, node) :: reversed).reverse ++ rereadMembers members))
                stack)
  | [] => by simp [memberTokens, rereadMembers, Builder.read?]
  | (key, value) :: rest => by
      have first := foldlM_tokens (.object ((label, node) :: reversed) (some key) :: stack) value
      have others :=
        foldlM_memberTokens ((label, node) :: reversed) (some key) value.reread stack rest
      simp only [memberTokens, rereadMembers, List.append_assoc, List.cons_append,
        Bool.false_eq_true, if_false]
      show (value.tokens ++ _).foldlM Builder.read?
        (.value (.object ((label, node) :: reversed) (some key) :: stack)) = _
      rw [List.foldlM_append, first]
      simpa [Builder.complete] using others

end

/-- A printed value is read as the tree of the value, in every blank layout. -/
theorem ofText?_print {layout : JsonLayout} (blank : layout.Blank) (depth : Nat) (json : Json)
    : ofText? (String.ofList (json.print layout depth)) = some json.reread := by
  have complete := foldlM_tokens [] json
  simp [ofText?, ofChars?_print blank, complete, Builder.complete]

end RawJson

namespace RawJson

mutual

/-- The number of arrays and objects within each other. -/
def depth : RawJson → Nat
  | .array items => itemsDepth items + 1
  | .object members => membersDepth members + 1
  | _ => 0

/-- The depth of the deepest item. -/
def itemsDepth : List RawJson → Nat
  | [] => 0
  | item :: rest => max item.depth (itemsDepth rest)

/-- The depth of the deepest member. -/
def membersDepth : List (Option String × RawJson) → Nat
  | [] => 0
  | (_, value) :: rest => max value.depth (membersDepth rest)

end

mutual

/-- A tree and its value nest equally deep, and no deeper than allowed. -/
theorem depth_of_value? {limit : Nat}
    : ∀ {raw : RawJson} {json : Json},
        raw.value? limit = some json → json.depth = raw.depth ∧ raw.depth ≤ limit
  | .null, _, h => by cases h; exact ⟨rfl, Nat.zero_le _⟩
  | .bool _, _, h => by cases h; exact ⟨rfl, Nat.zero_le _⟩
  | .number _, _, h => by
      obtain ⟨_, _, rfl⟩ := Option.map_eq_some_iff.mp h
      exact ⟨rfl, Nat.zero_le _⟩
  | .string _, _, h => by
      obtain ⟨_, _, rfl⟩ := Option.map_eq_some_iff.mp h
      exact ⟨rfl, Nat.zero_le _⟩
  | .array items, _, h => by
      rw [value?] at h
      split at h
      · simp at h
      · obtain ⟨values, read, rfl⟩ := Option.map_eq_some_iff.mp h
        have below := depth_of_itemValues? read
        simp only [Json.depth, depth]
        omega
  | .object members, _, h => by
      rw [value?] at h
      split at h
      · simp at h
      · obtain ⟨values, read, rfl⟩ := Option.map_eq_some_iff.mp h
        have below := depth_of_memberValues? read
        simp only [Json.depth, depth]
        omega

theorem depth_of_itemValues? {limit : Nat}
    : ∀ {items : List RawJson} {values : List Json},
        itemValues? limit items = some values
        → Json.itemsDepth values = itemsDepth items ∧ itemsDepth items ≤ limit
  | [], _, h => by cases h; exact ⟨rfl, Nat.zero_le _⟩
  | item :: rest, _, h => by
      simp only [itemValues?, Option.bind_eq_bind, Option.bind_eq_some_iff,
        Option.pure_def, Option.some.injEq] at h
      obtain ⟨value, first, values, others, rfl⟩ := h
      have here := depth_of_value? first
      have below := depth_of_itemValues? others
      simp only [Json.itemsDepth, itemsDepth]
      omega

theorem depth_of_memberValues? {limit : Nat}
    : ∀ {members : List (Option String × RawJson)} {values : List (String × Json)},
        memberValues? limit members = some values
        → Json.membersDepth values = membersDepth members ∧ membersDepth members ≤ limit
  | [], _, h => by cases h; exact ⟨rfl, Nat.zero_le _⟩
  | (label, member) :: rest, _, h => by
      simp only [memberValues?, Option.bind_eq_bind, Option.bind_eq_some_iff,
        Option.pure_def, Option.some.injEq] at h
      obtain ⟨key, _, value, first, values, others, rfl⟩ := h
      have here := depth_of_value? first
      have below := depth_of_memberValues? others
      simp only [Json.membersDepth, membersDepth]
      omega

end

end RawJson

mutual

/-- The tree of a printed value nests as deep as the value. -/
theorem Json.depth_reread : ∀ json : Json, json.reread.depth = json.depth
  | .null | .bool _ | .number _ | .string _ => rfl
  | .array items => congrArg (· + 1) (depth_rereadItems items)
  | .object members => congrArg (· + 1) (depth_rereadMembers members)

theorem Json.depth_rereadItems
    : ∀ items : List Json, RawJson.itemsDepth (rereadItems items) = itemsDepth items
  | [] => rfl
  | item :: rest => by
      rw [rereadItems, RawJson.itemsDepth, itemsDepth, depth_reread item, depth_rereadItems rest]

theorem Json.depth_rereadMembers
    : ∀ members : List (String × Json),
        RawJson.membersDepth (rereadMembers members) = membersDepth members
  | [] => rfl
  | (_, value) :: rest => by
      rw [rereadMembers, RawJson.membersDepth, membersDepth, depth_reread value,
        depth_rereadMembers rest]

end

/-- The number that a number reads back as, itself if there is none. -/
def JsonNumber.reread (number : JsonNumber) : JsonNumber := number.reread?.getD number

theorem JsonNumber.reread_of_integer {number : JsonNumber}
    (isInteger : number.integer?.isSome = true)
    : number.reread = number := by
  rw [reread, reread?_of_integer isInteger, Option.getD_some]

/-- A number survives if it reads as a number and that is the same. -/
theorem JsonNumber.survives_iff (number : JsonNumber)
    : number.reread? = some number ↔ number.reread?.isSome = true ∧ number.reread = number := by
  cases read : number.reread? <;> simp [reread, read]

namespace Json

mutual

/-- A printed value reads back with its numbers changed, if it nests no deeper than allowed and all
its numbers read as numbers.
-/
theorem value?_reread (limit : Nat)
    : ∀ json : Json,
        json.reread.value? limit
          = if json.depth ≤ limit ∧ ∀ number ∈ json.numbers, number.reread?.isSome
            then some (json.mapNumbers JsonNumber.reread)
            else none
  | .null => by simp [reread, RawJson.value?, depth, numbers, mapNumbers]
  | .bool _ => by simp [reread, RawJson.value?, depth, numbers, mapNumbers]
  | .number value => by
      cases read : value.reread? <;>
        simp [reread, RawJson.value?, depth, numbers, mapNumbers, JsonNumber.reread, read]
  | .string _ => by simp [reread, RawJson.value?, depth, numbers, mapNumbers]
  | .array items => by
      rw [reread, RawJson.value?, depth, numbers, mapNumbers, itemValues?_reread (limit - 1) items]
      by_cases none : limit = 0
      · simp [none]
      · have deep : itemsDepth items ≤ limit - 1 ↔ itemsDepth items + 1 ≤ limit := by omega
        rw [if_neg none, apply_ite (Option.map array), Option.map_some, Option.map_none]
        simp only [deep]
  | .object members => by
      rw [reread, RawJson.value?, depth, numbers, mapNumbers,
        memberValues?_reread (limit - 1) members]
      by_cases none : limit = 0
      · simp [none]
      · have deep : membersDepth members ≤ limit - 1 ↔ membersDepth members + 1 ≤ limit := by omega
        rw [if_neg none, apply_ite (Option.map object), Option.map_some, Option.map_none]
        simp only [deep]

theorem itemValues?_reread (limit : Nat)
    : ∀ items : List Json,
        RawJson.itemValues? limit (rereadItems items)
          = if itemsDepth items ≤ limit ∧ ∀ number ∈ itemsNumbers items, number.reread?.isSome
            then some (mapItemsNumbers JsonNumber.reread items)
            else none
  | [] => by simp [rereadItems, RawJson.itemValues?, itemsDepth, itemsNumbers, mapItemsNumbers]
  | item :: rest => by
      have both
          : (itemsDepth (item :: rest) ≤ limit
              ∧ ∀ number ∈ itemsNumbers (item :: rest), number.reread?.isSome)
            ↔ (item.depth ≤ limit ∧ ∀ number ∈ item.numbers, number.reread?.isSome)
              ∧ (itemsDepth rest ≤ limit
                ∧ ∀ number ∈ itemsNumbers rest, number.reread?.isSome) := by
        rw [itemsDepth, itemsNumbers, Nat.max_le, List.forall_mem_append]
        exact and_and_and_comm
      rw [rereadItems, RawJson.itemValues?, value?_reread limit item, itemValues?_reread limit rest,
        mapItemsNumbers]
      simp only [both]
      split <;> split <;> simp_all

theorem memberValues?_reread (limit : Nat)
    : ∀ members : List (String × Json),
        RawJson.memberValues? limit (rereadMembers members)
          = if membersDepth members ≤ limit
              ∧ ∀ number ∈ membersNumbers members, number.reread?.isSome
            then some (mapMembersNumbers JsonNumber.reread members)
            else none
  | [] => by
      simp [rereadMembers, RawJson.memberValues?, membersDepth, membersNumbers, mapMembersNumbers]
  | (key, value) :: rest => by
      have both
          : (membersDepth ((key, value) :: rest) ≤ limit
              ∧ ∀ number ∈ membersNumbers ((key, value) :: rest), number.reread?.isSome)
            ↔ (value.depth ≤ limit ∧ ∀ number ∈ value.numbers, number.reread?.isSome)
              ∧ (membersDepth rest ≤ limit
                ∧ ∀ number ∈ membersNumbers rest, number.reread?.isSome) := by
        rw [membersDepth, membersNumbers, Nat.max_le, List.forall_mem_append]
        exact and_and_and_comm
      rw [rereadMembers, RawJson.memberValues?, value?_reread limit value,
        memberValues?_reread limit rest, mapMembersNumbers]
      simp only [both]
      split <;> split <;> simp_all

end

end Json

end DesktopAutomation
