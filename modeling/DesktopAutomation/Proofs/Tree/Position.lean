import DesktopAutomation.Proofs.Number.Digits
import DesktopAutomation.Proofs.Tree.Accounting

/-! Positions of steps. The path to an id leads to the step that a search for the id finds, also
where steps share ids, and the text of a path can be read back.
-/

namespace DesktopAutomation

-----------------------------------------------------------------------------------------
-- Paths
-----------------------------------------------------------------------------------------

theorem pathTo?_action (id : StepId) (first : Nat) (own : StepId) (act : Action)
    (rest : List Step)
    : pathTo? id first (.action own act :: rest)
      = if own = id then some [first] else pathTo? id (first + 1) rest := by
  rw [pathTo?, Step.pathTo?]
  split <;> simp_all

theorem pathTo?_statement (id : StepId) (first : Nat) (own : StepId) (stmt : Statement)
    (body rest : List Step)
    : pathTo? id first (.statement own stmt body :: rest)
      = if own = id then some [first]
        else
          match pathTo? id 0 body with
          | some path => some (first :: path)
          | none => pathTo? id (first + 1) rest := by
  rw [pathTo?, Step.pathTo?]
  by_cases same : own = id
  · simp only [same, if_true]
  · cases pathTo? id 0 body <;> simp only [same, if_false]

/-- There is a path exactly if a step has the id, by induction over the nested lists. -/
theorem pathTo?_isSome (id : StepId) (first : Nat) (steps : List Step)
    : (pathTo? id first steps).isSome = ((listingOf steps).find? (·.id == id)).isSome := by
  induction steps using steps_induction generalizing first with
  | nil => rfl
  | action own act rest ih =>
      rw [pathTo?_action, find?_listingOf_action]
      by_cases same : own = id <;> simp [same, ih]
  | statement own stmt body rest bodyIH restIH =>
      rw [pathTo?_statement, find?_listingOf_statement]
      by_cases same : own = id
      · simp only [same, if_true, Option.isSome_some]
      · simp only [same, if_false, Option.isSome_or, ← bodyIH 0, ← restIH (first + 1)]
        cases pathTo? id 0 body <;> simp

/-- A path begins with a place in the list, counted from its first place, and leads to the first
step with the id. A step further behind has a place that is greater by one for each step before it.
-/
theorem leads_of_pathTo? {id : StepId} {first : Nat} {steps : List Step} {path : List Nat}
    (found : pathTo? id first steps = some path)
    : ∃ place below step,
        path = (first + place) :: below
        ∧ (listingOf steps).find? (·.id == id) = some step
        ∧ stepAt? (place :: below) steps = some step := by
  have shift (place : Nat) (below : List Nat) (step : Step) (rest : List Step)
      : stepAt? ((place + 1) :: below) (step :: rest) = stepAt? (place :: below) rest := by
    cases below <;> rfl
  induction steps using steps_induction generalizing first path with
  | nil => simp [pathTo?] at found
  | action own act rest ih =>
      rw [pathTo?_action] at found
      rw [find?_listingOf_action]
      split at found
      · next same =>
          obtain rfl := Option.some.inj found
          exact ⟨0, [], .action own act, rfl, if_pos same, rfl⟩
      · next differs =>
          obtain ⟨place, below, step, rfl, isFirst, leads⟩ := ih found
          refine ⟨place + 1, below, step, by rw [Nat.add_assoc, Nat.add_comm 1], ?_, ?_⟩
          · rw [if_neg differs, isFirst]
          · rw [shift, leads]
  | statement own stmt body rest bodyIH restIH =>
      rw [pathTo?_statement] at found
      rw [find?_listingOf_statement]
      split at found
      · next same =>
          obtain rfl := Option.some.inj found
          exact ⟨0, [], .statement own stmt body, rfl, if_pos same, rfl⟩
      · next differs =>
          rw [if_neg differs]
          cases within : pathTo? id 0 body with
          | some inner =>
              rw [within] at found
              obtain rfl := Option.some.inj found
              obtain ⟨place, below, step, rfl, isFirst, leads⟩ := bodyIH within
              rw [Nat.zero_add]
              exact ⟨0, place :: below, step, rfl, by rw [isFirst, Option.some_or], leads⟩
          | none =>
              rw [within] at found
              have absent := pathTo?_isSome id 0 body
              rw [within, Option.isSome_none, eq_comm, Option.isSome_eq_false_iff,
                Option.isNone_iff_eq_none] at absent
              obtain ⟨place, below, step, rfl, isFirst, leads⟩ := restIH found
              refine ⟨place + 1, below, step, by rw [Nat.add_assoc, Nat.add_comm 1], ?_, ?_⟩
              · rw [absent, Option.none_or, isFirst]
              · rw [shift, leads]

-----------------------------------------------------------------------------------------
-- Texts of paths
-----------------------------------------------------------------------------------------

/-- The numbers that a text holds between dots. -/
def placesOf (text : String) : List Nat := (text.toList.splitOn '.').map Number.digitsValue

/-- The text of a path holds the places on it, counted from one. -/
theorem placesOf_pathText {path : List Nat} (leads : path ≠ [])
    : placesOf (pathText path) = path.map (· + 1) := by
  have digits (place : Nat) : (toString (place + 1)).toList = Nat.toDigits 10 (place + 1) :=
    Nat.toList_repr
  have text : (pathText path).toList
      = ['.'].intercalate (path.map fun place => Nat.toDigits 10 (place + 1)) := by
    rw [pathText, String.toList_intercalate, List.map_map]
    simp only [Function.comp_def, digits]
    rfl
  have undotted : ∀ run ∈ path.map fun place => Nat.toDigits 10 (place + 1), '.' ∉ run := by
    intro run member dotted
    obtain ⟨place, _, rfl⟩ := List.mem_map.mp member
    exact absurd (Number.allDigits_toDigits _ '.' dotted) (by decide)
  rw [placesOf, text, List.splitOn_intercalate '.' undotted (by simpa using leads), List.map_map]
  exact List.map_congr_left fun place _ => Number.digitsValue_toDigits _

theorem pathText_ne_empty {path : List Nat} (leads : path ≠ []) : pathText path ≠ "" := by
  intro empty
  have places := placesOf_pathText leads
  rw [empty] at places
  have zero : placesOf "" = [0] := rfl
  rw [zero, eq_comm, List.map_eq_singleton_iff] at places
  obtain ⟨place, _, isZero⟩ := places
  exact absurd isZero (Nat.succ_ne_zero place)

namespace StepTree

/-- A step that is found has a path, and the path leads to it. -/
theorem path?_of_find? {tree : StepTree} {id : StepId} {step : Step}
    (found : tree.find? id = some step)
    : ∃ path,
        tree.path? id = some path
        ∧ path ≠ []
        ∧ stepAt? path tree.steps = some step := by
  rw [find?, toList_eq] at found
  have exists? := pathTo?_isSome id 0 tree.steps
  rw [found, Option.isSome_some, Option.isSome_iff_exists] at exists?
  obtain ⟨path, isPath⟩ := exists?
  obtain ⟨place, below, other, rfl, isFirst, leads⟩ := leads_of_pathTo? isPath
  obtain rfl := Option.some.inj (found.symm.trans isFirst)
  rw [Nat.zero_add] at isPath
  exact ⟨place :: below, isPath, List.cons_ne_nil _ _, leads⟩

end StepTree

end DesktopAutomation
