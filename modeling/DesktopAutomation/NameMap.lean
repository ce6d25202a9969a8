/-!
Finite maps from texts, kept in the order of the texts. Texts are ordered by their characters. Two
maps with the same look-ups are equal.
-/

namespace DesktopAutomation

-----------------------------------------------------------------------------------------
-- Sorted lists of named values
-----------------------------------------------------------------------------------------

/-- The names of a list grow strictly. -/
def NamesSorted {α : Type} (entries : List (String × α)) : Prop :=
  entries.Pairwise (·.1 < ·.1)

/-- Puts an entry in its place among sorted entries, instead of one with the same name. -/
def insertSorted {α : Type} (name : String) (value : α) : List (String × α) → List (String × α)
  | [] => [(name, value)]
  | (n, v) :: rest =>
    if name < n then (name, value) :: (n, v) :: rest
    else if name = n then (name, value) :: rest
    else (n, v) :: insertSorted name value rest

theorem mem_insertSorted {α : Type} {name : String} {value : α} {entry : String × α}
    {entries : List (String × α)} (member : entry ∈ insertSorted name value entries)
    : entry = (name, value) ∨ entry ∈ entries := by
  induction entries with
  | nil => simpa [insertSorted] using member
  | cons first rest ih =>
    obtain ⟨n, v⟩ := first
    rw [insertSorted] at member
    split at member <;> grind

theorem insertSorted_sorted {α : Type} {name : String} {value : α}
    {entries : List (String × α)} (sorted : NamesSorted entries)
    : NamesSorted (insertSorted name value entries) := by
  induction entries with
  | nil => simp [insertSorted, NamesSorted]
  | cons first rest ih =>
    obtain ⟨n, v⟩ := first
    obtain ⟨above, restSorted⟩ := List.pairwise_cons.1 sorted
    rw [insertSorted]
    split
    · next below =>
      refine List.pairwise_cons.2 ⟨fun entry member => ?_, sorted⟩
      rcases List.mem_cons.1 member with rfl | member
      · exact below
      · exact String.lt_trans below (above entry member)
    · split
      · next same => exact List.pairwise_cons.2 ⟨same ▸ above, restSorted⟩
      · next notBelow differs =>
        refine List.pairwise_cons.2 ⟨fun entry member => ?_, ih restSorted⟩
        rcases mem_insertSorted member with rfl | member
        · rcases Std.lt_trichotomy name n with less | same | more
          · exact absurd less notBelow
          · exact absurd same differs
          · exact more
        · exact above entry member

-----------------------------------------------------------------------------------------
-- Maps
-----------------------------------------------------------------------------------------

/-- A finite map from texts. -/
structure NameMap (α : Type) where
  entries : List (String × α)
  sorted : NamesSorted entries

namespace NameMap
variable {α : Type}

/-- The map without entries. -/
def empty : NameMap α := ⟨[], List.Pairwise.nil⟩

instance : Inhabited (NameMap α) := ⟨empty⟩

/-- The value of a name. -/
def find? (map : NameMap α) (name : String) : Option α := map.entries.lookup name

/-- The map with the value of one name set. -/
def insert (map : NameMap α) (name : String) (value : α) : NameMap α :=
  ⟨insertSorted name value map.entries, insertSorted_sorted map.sorted⟩

/-- The map without one name. -/
def erase (map : NameMap α) (name : String) : NameMap α :=
  ⟨map.entries.filter (·.1 != name), map.sorted.filter _⟩

/-- The names in order. -/
def names (map : NameMap α) : List String := map.entries.map (·.1)

/-- The number of names. -/
def size (map : NameMap α) : Nat := map.entries.length

/-- A name has a value. -/
def contains (map : NameMap α) (name : String) : Bool := (map.find? name).isSome

/-- The map with all values changed in one way. -/
def map (f : α → α) (names : NameMap α) : NameMap α :=
  ⟨names.entries.map fun (name, value) => (name, f value), by
    simpa [NamesSorted, List.pairwise_map] using names.sorted⟩

/-- The map of a list of entries; the last of a repeated name counts. -/
def ofList (entries : List (String × α)) : NameMap α :=
  entries.foldl (fun map entry => map.insert entry.1 entry.2) empty

theorem find?_empty (name : String) : (empty : NameMap α).find? name = none := rfl

theorem lookup_cons_eq (name other : String) (value : α) (rest : List (String × α))
    : List.lookup other ((name, value) :: rest)
      = if other = name then some value else rest.lookup other := by
  by_cases same : other = name <;> simp [List.lookup_cons, same, beq_eq_false_iff_ne.2]

/-- A name looks up the value that was set for it last. -/
theorem find?_insert (map : NameMap α) (name other : String) (value : α)
    : (map.insert name value).find? other
      = if other = name then some value else map.find? other := by
  obtain ⟨entries, sorted⟩ := map
  show (insertSorted name value entries).lookup other = if _ then _ else entries.lookup other
  induction entries with
  | nil => simp [insertSorted, lookup_cons_eq]
  | cons first rest ih =>
    obtain ⟨n, v⟩ := first
    have ih := ih (List.pairwise_cons.1 sorted).2
    rw [insertSorted]
    split
    · simp only [lookup_cons_eq]
    · split
      · next same => simp only [lookup_cons_eq]; grind
      · simp only [lookup_cons_eq, ih]; grind

/-- An erased name looks up nothing, all other names are unchanged. -/
theorem find?_erase (map : NameMap α) (name other : String)
    : (map.erase name).find? other = if other = name then none else map.find? other := by
  obtain ⟨entries, sorted⟩ := map
  show (entries.filter (·.1 != name)).lookup other = if _ then _ else entries.lookup other
  induction entries with
  | nil => simp
  | cons first rest ih =>
    obtain ⟨n, v⟩ := first
    have ih := ih (List.pairwise_cons.1 sorted).2
    rw [List.filter_cons]
    split
    · simp only [lookup_cons_eq, ih]; grind
    · next same => simp only [ih, lookup_cons_eq]; grind

/-- A changed map looks up changed values. -/
theorem find?_map (names : NameMap α) (f : α → α) (name : String)
    : (names.map f).find? name = (names.find? name).map f := by
  obtain ⟨entries, sorted⟩ := names
  show (entries.map fun (name, value) => (name, f value)).lookup name
    = (entries.lookup name).map f
  induction entries with
  | nil => rfl
  | cons first rest ih =>
    obtain ⟨n, v⟩ := first
    simp only [List.map_cons, lookup_cons_eq, ih (List.pairwise_cons.1 sorted).2]
    split <;> rfl

end NameMap

end DesktopAutomation
