import DesktopAutomation.Environment

/-! What a change of an environment leaves alone under its shadows.
Writing a name reaches its innermost shadow or, without one, the lasting binding; so whatever lies
behind a shadow of the name keeps its binding, and a shadow whose name is not used may be left out.
-/

namespace DesktopAutomation.Environment

/-- The keys of the shadows, the innermost first. -/
def shadowKeys (environment : Environment) : List String := environment.shadows.map (·.1)

/-- The binding of a key behind the first `depth` shadows. -/
def behind (environment : Environment) (depth : Nat) (key : String) : Option Variable :=
  ((environment.shadows.drop depth).lookup key).or (environment.bindings.find? key)

theorem get?_eq_behind (environment : Environment) (name : String)
    : environment.get? name = environment.behind 0 (keyOf name) :=
  rfl

/-- The shadows keep their keys and their order, and what lies behind a shadow of a key is bound to
it as before.
-/
structure Framed (before after : Environment) : Prop where
  keys : after.shadowKeys = before.shadowKeys
  hidden
    : ∀ depth key,
        key ∈ before.shadowKeys.take depth → after.behind depth key = before.behind depth key

theorem Framed.refl (environment : Environment) : Framed environment environment :=
  ⟨rfl, fun _ _ _ => rfl⟩

theorem Framed.trans {first second third : Environment} (earlier : Framed first second)
    (later : Framed second third)
    : Framed first third where
  keys := later.keys.trans earlier.keys
  hidden depth key member :=
    (later.hidden depth key (earlier.keys ▸ member)).trans (earlier.hidden depth key member)

/-- A key has a shadow to write to exactly if it is among the keys of the shadows. -/
theorem setShadow?_eq_none_iff (key : String) (binding : Variable)
    (shadows : List (String × Variable))
    : setShadow? key binding shadows = none ↔ key ∉ shadows.map (·.1) := by
  induction shadows with
  | nil => simp [setShadow?]
  | cons shadow rest ih =>
      obtain ⟨hidden, old⟩ := shadow
      rw [setShadow?]
      by_cases same : hidden = key
      · simp [same]
      · simp [same, ih, Ne.symm same]

/-- Writing to a shadow changes the innermost one of its key: all keys stay, the look-up of any
other key stays, and so does everything behind that shadow.
-/
theorem setShadow?_eq_some {key : String} {binding : Variable}
    {shadows written : List (String × Variable)}
    (set : setShadow? key binding shadows = some written)
    : written.map (·.1) = shadows.map (·.1)
      ∧ ∀ depth other,
          other ≠ key ∨ key ∈ (shadows.map (·.1)).take depth
          → (written.drop depth).lookup other = (shadows.drop depth).lookup other := by
  induction shadows generalizing written with
  | nil => simp [setShadow?] at set
  | cons shadow rest ih =>
      obtain ⟨hidden, old⟩ := shadow
      rw [setShadow?] at set
      split at set
      · next same =>
          obtain rfl := Option.some.inj set
          refine ⟨rfl, fun depth other apart => ?_⟩
          cases depth with
          | zero =>
              have differs : other ≠ key := by simpa using apart
              simp only [List.drop_zero, NameMap.lookup_cons_eq, same, if_neg differs]
          | succ depth => rfl
      · next differs =>
          obtain ⟨tail, inRest, rfl⟩ := Option.map_eq_some_iff.mp set
          obtain ⟨keys, kept⟩ := ih inRest
          refine ⟨by simp [keys], fun depth other apart => ?_⟩
          cases depth with
          | zero =>
              have apart : other ≠ key := by simpa using apart
              have same := kept 0 other (.inl apart)
              simp only [List.drop_zero] at same
              simp only [List.drop_zero, NameMap.lookup_cons_eq, same]
          | succ depth =>
              refine kept depth other (apart.imp_right fun member => ?_)
              simpa [Ne.symm differs] using member

/-- Writing a name keeps the keys of all shadows, the binding of any other name, and all that lies
behind a shadow of the name.
-/
theorem set_framed (environment : Environment) (name : String) (binding : Variable)
    : Framed environment (environment.set name binding) := by
  cases set : setShadow? (keyOf name) binding environment.shadows with
  | some shadows =>
      obtain ⟨keys, kept⟩ := setShadow?_eq_some set
      have written : environment.set name binding = { environment with shadows := shadows } := by
        rw [Environment.set, set]
      rw [written]
      refine ⟨keys, fun depth key member => ?_⟩
      by_cases same : key = keyOf name
      · rw [behind, behind, kept depth key (.inr (same ▸ member))]
      · rw [behind, behind, kept depth key (.inl same)]
  | none =>
      have absent := (setShadow?_eq_none_iff ..).mp set
      have written
          : environment.set name binding
            = { environment with
                bindings := environment.bindings.insert (keyOf name) binding } := by
        rw [Environment.set, set]
      rw [written]
      refine ⟨rfl, fun depth key member => ?_⟩
      have differs : key ≠ keyOf name := by
        rintro rfl
        exact absent (List.mem_of_mem_take member)
      rw [behind, behind, NameMap.find?_insert, if_neg differs]

theorem lookup_of_setShadow? {key : String} {binding : Variable}
    {shadows written : List (String × Variable)}
    (set : setShadow? key binding shadows = some written)
    : written.lookup key = some binding := by
  induction shadows generalizing written with
  | nil => simp [setShadow?] at set
  | cons shadow rest ih =>
      obtain ⟨hidden, old⟩ := shadow
      rw [setShadow?] at set
      split at set
      · next same =>
          obtain rfl := Option.some.inj set
          rw [NameMap.lookup_cons_eq, if_pos same.symm]
      · next differs =>
          obtain ⟨tail, inRest, rfl⟩ := Option.map_eq_some_iff.mp set
          rw [NameMap.lookup_cons_eq, if_neg (Ne.symm differs), ih inRest]

/-- What is written to a name is what a look-up of the name finds, in a shadow or for lasting. -/
theorem get?_set (environment : Environment) (name : String) (binding : Variable)
    : (environment.set name binding).get? name = some binding := by
  rw [Environment.set]
  cases set : setShadow? (keyOf name) binding environment.shadows with
  | some shadows => rw [get?, lookup_of_setShadow? set, Option.some_or]
  | none =>
      have unshadowed : environment.shadows.lookup (keyOf name) = none := by
        rw [List.lookup_eq_none_iff]
        intro shadow member
        have absent := (setShadow?_eq_none_iff ..).mp set
        exact bne_iff_ne.mpr fun same => absent (same ▸ List.mem_map_of_mem member)
      rw [get?, unshadowed, Option.none_or, NameMap.find?_insert, if_pos rfl]

theorem get?_shadow (environment : Environment) (name other : String) (binding : Variable)
    : (environment.shadow name binding).get? other
      = if keyOf other = keyOf name then some binding else environment.get? other := by
  rw [get?, get?, shadow, NameMap.lookup_cons_eq]
  split <;> simp

/-- The shadow that is dropped hides its own name only. -/
theorem get?_unshadow {environment : Environment} {key other : String} {keys : List String}
    (hidden : environment.shadowKeys = key :: keys) (differs : keyOf other ≠ key)
    : environment.unshadow.get? other = environment.get? other := by
  obtain ⟨bindings, shadows⟩ := environment
  cases shadows with
  | nil => simp [shadowKeys] at hidden
  | cons top rest =>
      obtain ⟨own, binding⟩ := top
      obtain ⟨rfl, _⟩ := List.cons.inj hidden
      simp only [get?, unshadow, List.tail_cons, NameMap.lookup_cons_eq, if_neg differs]

/-- What happens under a shadow leaves the environment below it framed, and the shadowed name with
its binding.
-/
theorem Framed.unshadow {before after : Environment} {name : String} {binding : Variable}
    (framed : Framed (before.shadow name binding) after)
    : Framed before after.unshadow ∧ after.unshadow.get? name = before.get? name := by
  obtain ⟨keys, hidden⟩ := framed
  have dropped (environment : Environment) (depth : Nat) (key : String)
      : environment.unshadow.behind depth key = environment.behind (depth + 1) key := by
    simp only [behind, Environment.unshadow, List.drop_tail]
  have covered (depth : Nat) (key : String)
      : (before.shadow name binding).behind (depth + 1) key = before.behind depth key :=
    rfl
  refine ⟨⟨?_, fun depth key member => ?_⟩, ?_⟩
  · rw [shadowKeys, Environment.unshadow, List.map_tail, ← shadowKeys, keys]
    rfl
  · rw [dropped, hidden _ _ (List.mem_cons_of_mem _ member), covered]
  · rw [get?_eq_behind, dropped, hidden 1 _ (by simp [shadowKeys, shadow]), covered,
      get?_eq_behind]

/-- Writing a name binds its key for lasting or not at all, and no other key. -/
theorem find?_set_cases (environment : Environment) (name : String) (binding : Variable)
    (key : String)
    : (environment.set name binding).bindings.find? key = environment.bindings.find? key
      ∨ keyOf name = key
        ∧ (environment.set name binding).bindings.find? key = some binding := by
  rw [Environment.set]
  split
  · exact .inl rfl
  · rw [NameMap.find?_insert]
    by_cases same : key = keyOf name
    · exact .inr ⟨same.symm, if_pos same⟩
    · exact .inl (if_neg same)

/-- What is framed leaves the lasting variables of all shadowed names alone. -/
theorem Framed.lasting? {before after : Environment} (framed : Framed before after)
    {name : String} (shadowed : keyOf name ∈ before.shadowKeys)
    : after.lasting? name = before.lasting? name := by
  have sameLength : after.shadows.length = before.shadows.length := by
    simpa [shadowKeys] using congrArg List.length framed.keys
  have all : before.shadowKeys.take before.shadows.length = before.shadowKeys :=
    List.take_of_length_le (by simp [shadowKeys])
  have hidden := framed.hidden before.shadows.length (keyOf name) (by rwa [all])
  simpa [behind, Environment.lasting?, List.drop_eq_nil_of_le (Nat.le_of_eq sameLength)]
    using hidden

-----------------------------------------------------------------------------------------
-- Shadows that are not used
-----------------------------------------------------------------------------------------

/-- Writing to shadows reaches the upper ones first. -/
theorem setShadow?_append (key : String) (binding : Variable)
    (upper lower : List (String × Variable))
    : setShadow? key binding (upper ++ lower)
      = ((setShadow? key binding upper).map (· ++ lower)).or
          ((setShadow? key binding lower).map (upper ++ ·)) := by
  induction upper with
  | nil => simp [setShadow?]
  | cons shadow rest ih =>
      obtain ⟨hidden, old⟩ := shadow
      rw [List.cons_append, setShadow?, setShadow?]
      split
      · rfl
      · rw [ih]
        cases setShadow? key binding rest <;> cases setShadow? key binding lower <;> rfl

/-- The second environment has a shadow of a key that the first has not, beneath a number of shadows
that both have.
-/
def Covers (key : String) (depth : Nat) (environment other : Environment) : Prop :=
  ∃ bindings upper lower hidden,
    upper.length = depth
    ∧ environment = ⟨bindings, upper ++ lower⟩
    ∧ other = ⟨bindings, upper ++ (key, hidden) :: lower⟩

theorem covers_shadow (environment : Environment) (name : String) (binding : Variable)
    : Covers (keyOf name) 0 environment (environment.shadow name binding) :=
  ⟨environment.bindings, [], environment.shadows, binding, rfl, rfl, rfl⟩

/-- Without the further shadow the environments are equal. -/
theorem Covers.unshadow {key : String} {environment other : Environment}
    (covers : Covers key 0 environment other)
    : other.unshadow = environment := by
  obtain ⟨bindings, upper, lower, hidden, noneAbove, rfl, rfl⟩ := covers
  obtain rfl := List.eq_nil_of_length_eq_zero noneAbove
  rfl

/-- A name of another key is written beside the shadow: above it, below it, or for lasting. -/
theorem Covers.set {key name : String} {depth : Nat} {environment other : Environment}
    (covers : Covers key depth environment other) (differs : keyOf name ≠ key)
    (binding : Variable)
    : Covers key depth (environment.set name binding) (other.set name binding) := by
  obtain ⟨bindings, upper, lower, hidden, rfl, rfl, rfl⟩ := covers
  have behind : setShadow? (keyOf name) binding ((key, hidden) :: lower)
      = (setShadow? (keyOf name) binding lower).map ((key, hidden) :: ·) := by
    rw [setShadow?, if_neg (Ne.symm differs)]
  simp only [Environment.set, setShadow?_append, behind]
  cases above : setShadow? (keyOf name) binding upper with
  | some written =>
      have sameLength : written.length = upper.length := by
        simpa using congrArg List.length (setShadow?_eq_some above).1
      exact ⟨bindings, written, lower, hidden, sameLength, rfl, rfl⟩
  | none =>
      cases setShadow? (keyOf name) binding lower with
      | some written => exact ⟨bindings, upper, written, hidden, rfl, rfl, rfl⟩
      | none => exact ⟨bindings.insert (keyOf name) binding, upper, lower, hidden, rfl, rfl, rfl⟩

theorem Covers.get? {key name : String} {depth : Nat} {environment other : Environment}
    (covers : Covers key depth environment other) (differs : keyOf name ≠ key)
    : other.get? name = environment.get? name := by
  obtain ⟨bindings, upper, lower, hidden, rfl, rfl, rfl⟩ := covers
  simp only [Environment.get?, List.lookup_append, NameMap.lookup_cons_eq, if_neg differs]

end DesktopAutomation.Environment
