import DesktopAutomation.NameMap

/-! Building sorted lists of named values up entry by entry.
Whatever the entries, the result is sorted and holds nothing but them; a list that is sorted
already is built up as it is.
-/

namespace DesktopAutomation
variable {α β : Type}

/-- Puts entries in their places among sorted entries, one after the other. -/
def insertAll (sorted entries : List (String × α)) : List (String × α) :=
  entries.foldl (fun sorted entry => insertSorted entry.1 entry.2 sorted) sorted

theorem insertAll_cons (sorted : List (String × α)) (entry : String × α)
    (entries : List (String × α))
    : insertAll sorted (entry :: entries)
      = insertAll (insertSorted entry.1 entry.2 sorted) entries := rfl

theorem insertAll_sorted {sorted : List (String × α)} (start : NamesSorted sorted)
    (entries : List (String × α))
    : NamesSorted (insertAll sorted entries) := by
  induction entries generalizing sorted with
  | nil => exact start
  | cons entry rest ih => exact ih (insertSorted_sorted start)

theorem mem_insertAll {sorted entries : List (String × α)} {entry : String × α}
    (member : entry ∈ insertAll sorted entries)
    : entry ∈ sorted ∨ entry ∈ entries := by
  induction entries generalizing sorted with
  | nil => exact .inl member
  | cons first rest ih =>
      rcases ih member with here | behind
      · rcases mem_insertSorted here with rfl | before
        · exact .inr List.mem_cons_self
        · exact .inl before
      · exact .inr (List.mem_cons_of_mem _ behind)

/-- An entry above all others goes last. -/
theorem insertSorted_last {name : String} (value : α) {entries : List (String × α)}
    (above : ∀ entry ∈ entries, entry.1 < name)
    : insertSorted name value entries = entries ++ [(name, value)] := by
  induction entries with
  | nil => rfl
  | cons first rest ih =>
      obtain ⟨below, above⟩ := List.forall_mem_cons.mp above
      have notAbove : ¬name < first.1 := fun back => String.lt_irrefl _ (String.lt_trans below back)
      have differs : name ≠ first.1 := by
        rintro rfl
        exact String.lt_irrefl _ below
      rw [insertSorted, if_neg notAbove, if_neg differs, ih above, List.cons_append]

/-- Sorted entries are built up as they are, behind others below them. -/
theorem insertAll_of_sorted (before : List (String × α)) {entries : List (String × α)}
    (sorted : NamesSorted (before ++ entries))
    : insertAll before entries = before ++ entries := by
  induction entries generalizing before with
  | nil => rw [List.append_nil]; rfl
  | cons entry rest ih =>
      have below : ∀ other ∈ before, other.1 < entry.1 := fun other member =>
        (List.pairwise_append.mp sorted).2.2 other member entry List.mem_cons_self
      have shifted : before ++ entry :: rest = (before ++ [entry]) ++ rest := by simp
      rw [insertAll_cons, insertSorted_last entry.2 below, shifted]
      exact ih _ (shifted ▸ sorted)

/-- The values of the entries may be changed before or after. -/
theorem insertSorted_map (change : α → β) (name : String) (value : α)
    (entries : List (String × α))
    : insertSorted name (change value) (entries.map fun entry => (entry.1, change entry.2))
      = (insertSorted name value entries).map fun entry => (entry.1, change entry.2) := by
  induction entries with
  | nil => rfl
  | cons first rest ih =>
      rw [List.map_cons, insertSorted, insertSorted, ih]
      split
      · rfl
      split <;> rfl

theorem insertAll_map (change : α → β) (sorted entries : List (String × α))
    : insertAll (sorted.map fun entry => (entry.1, change entry.2))
          (entries.map fun entry => (entry.1, change entry.2))
      = (insertAll sorted entries).map fun entry => (entry.1, change entry.2) := by
  induction entries generalizing sorted with
  | nil => rfl
  | cons entry rest ih =>
      have put := insertSorted_map change entry.1 entry.2 sorted
      rw [List.map_cons, insertAll_cons, insertAll_cons, ← ih, ← put]

/-- A sorted list is told by what is in it. -/
theorem eq_of_sorted_of_mem_iff {before : α → α → Prop}
    (asymm : ∀ entry other, before entry other → ¬before other entry) {list other : List α}
    (sorted : list.Pairwise before) (otherSorted : other.Pairwise before)
    (same : ∀ entry, entry ∈ list ↔ entry ∈ other)
    : list = other := by
  have distinct {list : List α} (sorted : list.Pairwise before) : list.Nodup := by
    refine sorted.imp fun isBefore same => ?_
    subst same
    exact asymm _ _ isBefore isBefore
  have permuted : list.Perm other :=
    (List.perm_ext_iff_of_nodup (distinct sorted) (distinct otherSorted)).mpr same
  exact permuted.eq_of_pairwise
    (fun entry other _ _ isBefore behind => absurd behind (asymm entry other isBefore))
    sorted otherSorted

namespace NameMap

theorem ext_entries {map other : NameMap α} (same : map.entries = other.entries) : map = other := by
  cases map
  cases other
  subst same
  rfl

theorem ofList_entries_eq (entries : List (String × α))
    : (ofList entries).entries = insertAll [] entries := by
  have built (map : NameMap α)
      : (entries.foldl (fun map entry => map.insert entry.1 entry.2) map).entries
        = insertAll map.entries entries := by
    induction entries generalizing map with
    | nil => rfl
    | cons entry rest ih => exact ih _
  exact built empty

/-- A map is built up from its own entries. -/
theorem ofList_entries (map : NameMap α) : ofList map.entries = map :=
  ext_entries <| (ofList_entries_eq map.entries).trans (insertAll_of_sorted [] map.sorted)

theorem mem_of_mem_ofList {entries : List (String × α)} {entry : String × α}
    (member : entry ∈ (ofList entries).entries)
    : entry ∈ entries := by
  rw [ofList_entries_eq] at member
  exact (mem_insertAll member).resolve_left List.not_mem_nil

/-- The entries of a map are what its names look up. -/
theorem find?_eq_some_iff (map : NameMap α) (name : String) (value : α)
    : map.find? name = some value ↔ (name, value) ∈ map.entries := by
  obtain ⟨entries, sorted⟩ := map
  show entries.lookup name = some value ↔ (name, value) ∈ entries
  induction entries with
  | nil => simp
  | cons first rest ih =>
      obtain ⟨n, v⟩ := first
      obtain ⟨above, sorted⟩ := List.pairwise_cons.mp sorted
      rw [lookup_cons_eq, List.mem_cons, Prod.mk.injEq]
      by_cases same : name = n
      · subst same
        have absent : (name, value) ∉ rest := fun member =>
          String.lt_irrefl name (above (name, value) member)
        simp [absent, eq_comm]
      · simp [same, ih sorted]

/-- Maps with the same look-ups are equal. -/
theorem ext_find? {map other : NameMap α} (same : ∀ name, map.find? name = other.find? name)
    : map = other := by
  refine ext_entries (eq_of_sorted_of_mem_iff (fun entry entry' => String.lt_asymm) map.sorted
    other.sorted fun (name, value) => ?_)
  rw [← find?_eq_some_iff, ← find?_eq_some_iff, same]

/-- A name looks up the last of its entries in a list. -/
theorem find?_ofList (entries : List (String × α)) (name : String)
    : (ofList entries).find? name = entries.reverse.lookup name := by
  have built (map : NameMap α)
      : (entries.foldl (fun map entry => map.insert entry.1 entry.2) map).find? name
        = (entries.reverse.lookup name).or (map.find? name) := by
    induction entries generalizing map with
    | nil => rfl
    | cons entry rest ih =>
        rw [List.foldl_cons, ih, find?_insert, List.reverse_cons, List.lookup_append,
          Option.or_assoc, lookup_cons_eq]
        split <;> rfl
  rw [ofList, built, find?_empty, Option.or_none]

theorem find?_ofList_eq_none_iff (entries : List (String × α)) (name : String)
    : (ofList entries).find? name = none ↔ ∀ entry ∈ entries, entry.1 ≠ name := by
  simp only [find?_ofList, List.lookup_eq_none_iff, List.mem_reverse, bne_iff_ne, ne_comm]

/-- An entry counts if no other one of its name is behind it. -/
theorem find?_ofList_of_last {before after : List (String × α)} {name : String} {value : α}
    (last : ∀ entry ∈ after, entry.1 ≠ name)
    : (ofList (before ++ (name, value) :: after)).find? name = some value := by
  have none : after.reverse.lookup name = none := by
    rw [List.lookup_eq_none_iff]
    intro entry member
    exact bne_iff_ne.mpr (last entry (List.mem_reverse.mp member)).symm
  simp [find?_ofList, List.lookup_append, none]

theorem erase_of_missing {map : NameMap α} {name : String} (missing : map.find? name = none)
    : map.erase name = map :=
  ext_find? fun other => by
    rw [find?_erase]
    grind

theorem names_sorted (map : NameMap α) : map.names.Pairwise (· < ·) :=
  List.pairwise_map.mpr map.sorted

theorem mem_names_iff (map : NameMap α) (name : String)
    : name ∈ map.names ↔ (map.find? name).isSome = true := by
  rw [Option.isSome_iff_exists, names, List.mem_map]
  constructor
  · rintro ⟨⟨_, value⟩, member, rfl⟩
    exact ⟨value, (find?_eq_some_iff ..).mpr member⟩
  · rintro ⟨value, found⟩
    exact ⟨(name, value), (find?_eq_some_iff ..).mp found, rfl⟩

/-- Maps that bind the same names list the same names. -/
theorem names_eq_of_isSome_eq {map : NameMap α} {other : NameMap β}
    (same : ∀ name, (map.find? name).isSome = (other.find? name).isSome)
    : map.names = other.names :=
  eq_of_sorted_of_mem_iff (fun _ _ => String.lt_asymm) map.names_sorted other.names_sorted
    fun name => by rw [mem_names_iff, mem_names_iff, same]

end NameMap

end DesktopAutomation
