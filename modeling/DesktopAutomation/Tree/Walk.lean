import DesktopAutomation.Step.Basic

/-!
Walking through nested steps: each step first, then its body, then what follows it. A walk keeps
the steps still to come of every level that it is in; taken to its end it lists the steps in
exactly this order.
-/

namespace DesktopAutomation

-----------------------------------------------------------------------------------------
-- The listing
-----------------------------------------------------------------------------------------

mutual

/-- A step and all steps within it, each before those within it. -/
def Step.listing : Step → List Step
  | .action id act => [.action id act]
  | .statement id stmt body => .statement id stmt body :: listingOf body

/-- All steps of a list and all steps within them, each before those within it. -/
def listingOf : List Step → List Step
  | [] => []
  | step :: rest => step.listing ++ listingOf rest

end

theorem Step.listing_eq (step : Step)
    : step.listing = step :: listingOf (step.body?.getD []) := by
  cases step with
  | action id act => rfl
  | statement id stmt body => rw [Step.listing]; rfl

theorem listingOf_append (before after : List Step)
    : listingOf (before ++ after) = listingOf before ++ listingOf after := by
  induction before with
  | nil => rfl
  | cons step rest ih => rw [List.cons_append, listingOf, listingOf, ih, List.append_assoc]

theorem mem_listing (step : Step) : step ∈ step.listing := by
  rw [Step.listing_eq]
  exact List.mem_cons_self

-----------------------------------------------------------------------------------------
-- The walk
-----------------------------------------------------------------------------------------

/-- A walk in progress: the steps still to come of each level, the innermost level first. -/
structure Walk where
  levels : List (List Step)

namespace Walk

/-- The walk before its first step. -/
def start (steps : List Step) : Walk := ⟨[steps]⟩

/-- The first step still to come in the innermost level that has one, and the levels behind it. -/
def nextOf? : List (List Step) → Option (Step × List (List Step))
  | [] => none
  | [] :: outer => nextOf? outer
  | (step :: rest) :: outer =>
    match step.body? with
    | some body => some (step, body :: rest :: outer)
    | none => some (step, rest :: outer)

/-- The next step of a walk, and the walk behind it. -/
def next? (walk : Walk) : Option (Step × Walk) :=
  (nextOf? walk.levels).map fun (step, levels) => (step, ⟨levels⟩)

/-- All steps still to come. -/
def remaining (walk : Walk) : List Step := walk.levels.flatMap listingOf

theorem remaining_of_nextOf? {levels behind : List (List Step)} {step : Step}
    (comes : nextOf? levels = some (step, behind))
    : levels.flatMap listingOf = step :: behind.flatMap listingOf := by
  induction levels with
  | nil => simp [nextOf?] at comes
  | cons level outer ih =>
    cases level with
    | nil => simpa [listingOf] using ih comes
    | cons first rest =>
      rw [List.flatMap_cons, listingOf, Step.listing_eq]
      cases body : first.body? <;> simp only [nextOf?, body, Option.some.injEq,
        Prod.mk.injEq] at comes <;> obtain ⟨rfl, rfl⟩ := comes <;>
        simp [listingOf]

theorem remaining_of_nextOf?_none {levels : List (List Step)} (ends : nextOf? levels = none)
    : levels.flatMap listingOf = [] := by
  induction levels with
  | nil => rfl
  | cons level outer ih =>
    cases level with
    | nil => simpa [listingOf] using ih ends
    | cons first rest => cases body : first.body? <;> simp [nextOf?, body] at ends

/-- What remains of a walk is its next step and what remains behind it. -/
theorem remaining_of_next? {walk behind : Walk} {step : Step}
    (comes : walk.next? = some (step, behind))
    : walk.remaining = step :: behind.remaining := by
  simp only [next?, Option.map_eq_some_iff] at comes
  obtain ⟨⟨first, levels⟩, found, same⟩ := comes
  simp only [Prod.mk.injEq] at same
  obtain ⟨rfl, rfl⟩ := same
  exact remaining_of_nextOf? found

/-- Takes all further steps of a walk. -/
def toList (walk : Walk) : List Step :=
  match _comes : walk.next? with
  | none => []
  | some (step, behind) => step :: behind.toList
termination_by walk.remaining.length
decreasing_by rw [remaining_of_next? _comes]; simp

/-- A walk takes exactly the steps that remain. -/
theorem toList_eq_remaining (walk : Walk) : walk.toList = walk.remaining := by
  fun_induction toList walk with
  | case1 walk ends =>
    simp only [next?, Option.map_eq_none_iff] at ends
    exact (remaining_of_nextOf?_none ends).symm
  | case2 walk step behind comes ih => rw [remaining_of_next? comes, ih]

end Walk

/-- All steps of a list and within it, in the order of a walk. -/
def walk (steps : List Step) : List Step := (Walk.start steps).toList

theorem walk_eq_listingOf (steps : List Step) : walk steps = listingOf steps := by
  rw [walk, Walk.toList_eq_remaining]
  simp [Walk.start, Walk.remaining]

end DesktopAutomation
