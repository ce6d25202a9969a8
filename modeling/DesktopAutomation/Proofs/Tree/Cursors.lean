import DesktopAutomation.Proofs.Tree.InPlace
import DesktopAutomation.Proofs.Tree.Sites

/-! A walk through a tree, call by call. It keeps a cursor for each level that it is in and goes on
at the innermost one that is not used up. The calls answer with the steps of the recursive listing,
each site once, and with nothing from then on. The first site whose step has an id is where a search
for reading, a search for writing and an edit all end, also where steps share ids.
-/

namespace DesktopAutomation

-----------------------------------------------------------------------------------------
-- Calls
-----------------------------------------------------------------------------------------

section Calls

variable {σ α : Type} (call : σ → Option α × σ)

/-- The answer to the call behind a number of others. -/
def answerBehind : Nat → σ → Option α
  | 0, state => (call state).1
  | count + 1, state => answerBehind count (call state).2

/-- A call takes the first item of what is to come, if anything is. -/
structure TakesFirst (coming : σ → List α) : Prop where
  answer : ∀ state, (call state).1 = (coming state).head?
  behind : ∀ state, coming (call state).2 = (coming state).tail

variable {call}

/-- Calls that take first items answer with the items in order, and with nothing behind them. -/
theorem TakesFirst.answerBehind_eq {coming : σ → List α} (takes : TakesFirst call coming)
    (count : Nat) (state : σ)
    : answerBehind call count state = (coming state)[count]? := by
  induction count generalizing state with
  | zero => rw [answerBehind, takes.answer, List.head?_eq_getElem?]
  | succ count ih => rw [answerBehind, ih, takes.behind, List.getElem?_tail]

end Calls

namespace Walk

/-- A call for the next step of a walk. At the end no level is left. -/
def call (walk : Walk) : Option Step × Walk :=
  match walk.next? with
  | some (step, behind) => (some step, behind)
  | none => (none, ⟨[]⟩)

theorem takesFirst_call : TakesFirst call remaining := by
  have ended {walk : Walk} (ends : walk.next? = none) : walk.remaining = [] :=
    remaining_of_nextOf?_none (Option.map_eq_none_iff.mp ends)
  constructor <;> intro walk <;> rw [call] <;> cases comes : walk.next? with
  | some next => rw [remaining_of_next? comes]; rfl
  | none => rw [ended comes]; rfl

end Walk

-----------------------------------------------------------------------------------------
-- Cursors
-----------------------------------------------------------------------------------------

/-- Where a walk is in one level: the path to the list of steps, the number of the step that comes
next, and all that are still to come.
-/
structure Cursor where
  above : List Nat
  number : Nat
  coming : List Step

namespace Cursor

/-- The cursor before the first step of a list. -/
def start (steps : List Step) : Cursor := ⟨[], 1, steps⟩

/-- The sites that a cursor has still to come by. -/
def sites (cursor : Cursor) : List (List Nat × Step) :=
  (sitesFrom cursor.number cursor.coming).map fun site => (cursor.above ++ site.1, site.2)

/-- A call for the next site, the innermost cursor first. Cursors that are used up are dropped. -/
def call : List Cursor → Option (List Nat × Step) × List Cursor
  | [] => (none, [])
  | ⟨_, _, []⟩ :: outer => call outer
  | ⟨above, number, step :: rest⟩ :: outer =>
    let site := (above ++ [number], step)
    let left := ⟨above, number + 1, rest⟩ :: outer
    match step.body? with
    | some body => (some site, ⟨above ++ [number], 1, body⟩ :: left)
    | none => (some site, left)

/-- Without the paths, calls on cursors are the calls of a walk. -/
theorem walk_call (cursors : List Cursor)
    : Walk.call ⟨cursors.map coming⟩
      = ((call cursors).1.map (·.2), ⟨(call cursors).2.map coming⟩) := by
  induction cursors with
  | nil => rfl
  | cons cursor outer ih =>
      obtain ⟨above, number, steps⟩ := cursor
      cases steps with
      | nil => exact ih
      | cons step rest => cases step <;> rfl

/-- The next step of a cursor comes first, then what is in its body, then its later siblings. -/
theorem sites_cons (above : List Nat) (number : Nat) (step : Step) (rest : List Step)
    : sites ⟨above, number, step :: rest⟩
      = (above ++ [number], step)
        :: (sites ⟨above ++ [number], 1, step.body?.getD []⟩
          ++ sites ⟨above, number + 1, rest⟩) := by
  cases step with
  | action id act =>
      rw [sites, sitesFrom_action]
      simp [sites, sitesFrom, Step.body?]
  | statement id stmt body =>
      rw [sites, sitesFrom_statement]
      simp [sites, Step.body?]

/-- The invariant of all cursors together: a call takes the first of the sites that they have still
to come by, from the innermost one on.
-/
theorem takesFirst_call : TakesFirst call (List.flatMap sites) := by
  have taken (cursors : List Cursor)
      : (call cursors).1 = (cursors.flatMap sites).head?
        ∧ (call cursors).2.flatMap sites = (cursors.flatMap sites).tail := by
    induction cursors with
    | nil => exact ⟨rfl, rfl⟩
    | cons cursor outer ih =>
        obtain ⟨above, number, steps⟩ := cursor
        cases steps with
        | nil => exact ih
        | cons step rest =>
            rw [List.flatMap_cons, sites_cons, call]
            cases body : step.body? with
            | some inner => simp
            | none => simp [sites, sitesFrom]
  exact ⟨fun cursors => (taken cursors).1, fun cursors => (taken cursors).2⟩

theorem flatMap_sites_start (steps : List Step)
    : [start steps].flatMap sites = sitesFrom 1 steps := by
  simp [start, sites]

end Cursor

-----------------------------------------------------------------------------------------
-- Writing at a site
-----------------------------------------------------------------------------------------

/-- The step with another one put at the end of a path, the numbers of which count from one. -/
def Step.putAt (new : Step) : List Nat → Step → Step
  | [], _ => new
  | number :: path, step =>
    step.withBody ((step.body?.getD []).modify (number - 1) (Step.putAt new path))

/-- The steps with another one put at the end of a path. The first step of the list has the number
`first`.
-/
def putFrom (first : Nat) (new : Step) : List Nat → List Step → List Step
  | [], steps => steps
  | number :: path, steps => steps.modify (number - first) (Step.putAt new path)

/-- The slot that a site is: the step there, and the list with another one put in its place. -/
def slotAt (first : Nat) (steps : List Step) (site : List Nat × Step) : Slot (List Step) :=
  ⟨site.2, fun new => putFrom first new site.1 steps⟩

theorem slotAt_here (first : Nat) (step : Step) (rest : List Step)
    : slotAt first (step :: rest) ([first], step) = ⟨step, (· :: rest)⟩ := by
  simp [slotAt, putFrom, Step.putAt]

theorem slotAt_within (first : Nat) (id : StepId) (stmt : Statement) {body : List Step}
    (rest : List Step) {site : List Nat × Step} (inBody : site ∈ sitesFrom 1 body)
    : slotAt first (.statement id stmt body :: rest) (first :: site.1, site.2)
      = (slotAt 1 body site).within (.statement id stmt · :: rest) := by
  obtain ⟨path, step⟩ := site
  obtain ⟨index, below, rfl, -⟩ := (mem_sitesFrom_iff ..).mp inBody
  simp [slotAt, putFrom, Step.putAt, Slot.within, Step.withBody, Step.body?]

theorem slotAt_behind (first : Nat) (step : Step) {rest : List Step}
    {site : List Nat × Step} (inRest : site ∈ sitesFrom (first + 1) rest)
    : slotAt first (step :: rest) site
      = (slotAt (first + 1) rest site).within (step :: ·) := by
  obtain ⟨path, other⟩ := site
  obtain ⟨index, below, rfl, -⟩ := (mem_sitesFrom_iff ..).mp inRest
  have behind : first + 1 + index - first = index + 1 := by omega
  simp [slotAt, putFrom, Slot.within, behind]

/-- The search for a step to write to ends at the first site of the id, by induction over the nested
lists.
-/
theorem slot?_eq_slotAt (id : StepId) (first : Nat) (steps : List Step)
    : slot? id steps
      = ((sitesFrom first steps).find? (·.2.id == id)).map (slotAt first steps) := by
  induction steps using steps_induction generalizing first with
  | nil => rfl
  | action own act rest ih =>
      rw [slot?_action, find?_sitesFrom_action, ih (first + 1)]
      split
      · exact congrArg some (slotAt_here first _ rest).symm
      · cases isFirst : (sitesFrom (first + 1) rest).find? (·.2.id == id) with
        | none => rfl
        | some site =>
            exact congrArg some (slotAt_behind first _ (List.mem_of_find?_eq_some isFirst)).symm
  | statement own stmt body rest bodyIH restIH =>
      rw [slot?_statement, find?_sitesFrom_statement, bodyIH 1, restIH (first + 1)]
      split
      · exact congrArg some (slotAt_here first _ rest).symm
      · cases inBody : (sitesFrom 1 body).find? (·.2.id == id) with
        | some site =>
            exact congrArg some
              (slotAt_within first own stmt rest (List.mem_of_find?_eq_some inBody)).symm
        | none =>
            cases inRest : (sitesFrom (first + 1) rest).find? (·.2.id == id) with
            | none => rfl
            | some site =>
                exact congrArg some
                  (slotAt_behind first _ (List.mem_of_find?_eq_some inRest)).symm

namespace StepTree

/-- A walk through a tree comes by some sites: its calls answer with their steps, which are those of
the recursive listing, and calls on cursors answer with the sites.
-/
structure WalksBy (tree : StepTree) (sites : List (List Nat × Step)) : Prop where
  charted : Charts tree.steps sites
  listed : sites.map (·.2) = listingOf tree.steps
  answered
    : ∀ count,
        answerBehind Walk.call count (Walk.start tree.steps) = (listingOf tree.steps)[count]?
  traced
    : ∀ count, answerBehind Cursor.call count [Cursor.start tree.steps] = sites[count]?
  same
    : ∀ cursors : List Cursor,
        Walk.call ⟨cursors.map Cursor.coming⟩
        = ((Cursor.call cursors).1.map (·.2), ⟨(Cursor.call cursors).2.map Cursor.coming⟩)
  collected : tree.toList = listingOf tree.steps

/-- An id means the step at a site: it is read there, it is written to there, and edited there. -/
structure MeansSite (tree : StepTree) (id : StepId) (site? : Option (List Nat × Step)) : Prop where
  read : tree.find? id = site?.map (·.2)
  written : slot? id tree.steps = site?.map (slotAt 1 tree.steps)
  edited
    : ∀ edit,
        editFirst? id edit tree.steps
        = site?.map fun site => putFrom 1 (edit site.2) site.1 tree.steps

theorem walksBy_sites (tree : StepTree) : tree.WalksBy tree.sites where
  charted := tree.charts_sites
  listed := map_snd_sitesFrom 1 tree.steps
  answered count := by
    rw [Walk.takesFirst_call.answerBehind_eq]
    simp [Walk.remaining, Walk.start]
  traced count := by
    rw [Cursor.takesFirst_call.answerBehind_eq, Cursor.flatMap_sites_start, sites]
  same := Cursor.walk_call
  collected := tree.toList_eq

theorem meansSite_first (tree : StepTree) (id : StepId)
    : tree.MeansSite id (tree.sites.find? (·.2.id == id)) where
  read := tree.find?_eq_site id
  written := slot?_eq_slotAt id 1 tree.steps
  edited edit := by
    rw [← slot?_put, slot?_eq_slotAt id 1, Option.map_map]
    rfl

/-- The calls of a walk through a tree answer with the steps of the recursive listing, one by one,
and with nothing behind the last of them; every site of the tree has its turn once. Whatever id is
searched for, looking it up, writing to it and editing it all mean the first site in this order
whose step has the id.
-/
theorem calls_by_sites (tree : StepTree)
    : tree.WalksBy tree.sites ∧ ∀ id, tree.MeansSite id (tree.sites.find? (·.2.id == id)) :=
  ⟨tree.walksBy_sites, tree.meansSite_first⟩

end StepTree

end DesktopAutomation
