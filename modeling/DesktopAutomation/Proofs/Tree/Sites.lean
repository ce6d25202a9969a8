import DesktopAutomation.Proofs.Tree.Position
import Mathlib.Data.List.Lex

/-! Where the steps of a tree stand. A walk comes by all places of a tree, in their order, and the
position of an id is the first of them whose step has the id. It is found by a search of its own,
which pushes places on a path and pops them again; the two agree, also where steps share ids.
-/

namespace DesktopAutomation

-----------------------------------------------------------------------------------------
-- Places
-----------------------------------------------------------------------------------------

/-- Following the numbers of a path leads to a step: each counts from one among the steps of a list,
and the next one among those in the body of the step that is there.
-/
inductive Reaches : List Nat → List Step → Step → Prop
  | here {index : Nat} {steps : List Step} {step : Step} (isThere : steps[index]? = some step)
    : Reaches [index + 1] steps step
  | within {index : Nat} {path : List Nat} {steps body : List Step} {holder step : Step}
    (isThere : steps[index]? = some holder) (holds : holder.body? = some body)
    (further : Reaches path body step)
    : Reaches ((index + 1) :: path) steps step

mutual

/-- A step and all steps within it in the order of a walk, with the paths to them from the step. -/
def Step.sites : Step → List (List Nat × Step)
  | .action id act => [([], .action id act)]
  | .statement id stmt body => ([], .statement id stmt body) :: sitesFrom 1 body

/-- All steps of a list and within it in the order of a walk, with the paths to them. The first step
of the list has the number `first`.
-/
def sitesFrom (first : Nat) : List Step → List (List Nat × Step)
  | [] => []
  | step :: rest =>
    step.sites.map (fun site => (first :: site.1, site.2)) ++ sitesFrom (first + 1) rest

end

/-- The steps of a tree in the order of a walk, with the paths to them. -/
def StepTree.sites (tree : StepTree) : List (List Nat × Step) := sitesFrom 1 tree.steps

/-- An action has one site, in front of those of the rest. -/
theorem sitesFrom_action (first : Nat) (id : StepId) (act : Action) (rest : List Step)
    : sitesFrom first (.action id act :: rest)
      = ([first], .action id act) :: sitesFrom (first + 1) rest := by
  rw [sitesFrom, Step.sites]
  rfl

/-- A statement has its own site, then those of its body below it, then those of the rest. -/
theorem sitesFrom_statement (first : Nat) (id : StepId) (stmt : Statement)
    (body rest : List Step)
    : sitesFrom first (.statement id stmt body :: rest)
      = ([first], .statement id stmt body)
        :: ((sitesFrom 1 body).map (fun site => (first :: site.1, site.2))
          ++ sitesFrom (first + 1) rest) := by
  rw [sitesFrom, Step.sites]
  rfl

/-- The sites come in the order of a walk. -/
theorem map_snd_sitesFrom (first : Nat) (steps : List Step)
    : (sitesFrom first steps).map (·.2) = listingOf steps := by
  induction steps using steps_induction generalizing first with
  | nil => rfl
  | action id act rest ih => rw [sitesFrom_action, listingOf_action, List.map_cons, ih]
  | statement id stmt body rest bodyIH restIH =>
      rw [sitesFrom_statement, listingOf_statement, List.map_cons, List.map_append, restIH,
        List.map_map, ← bodyIH 1]
      rfl

/-- A path that starts with one leads to the first step or below it. -/
theorem reaches_first_iff {below : List Nat} {first step : Step} {rest : List Step}
    : Reaches (1 :: below) (first :: rest) step
      ↔ (below = [] ∧ first = step)
        ∨ ∃ body, first.body? = some body ∧ Reaches below body step := by
  constructor
  · intro reaches
    cases reaches with
    | here isThere => exact .inl ⟨rfl, Option.some.inj isThere⟩
    | within isThere holds further =>
        obtain rfl := Option.some.inj isThere
        exact .inr ⟨_, holds, further⟩
  · rintro (⟨rfl, rfl⟩ | ⟨body, holds, further⟩)
    · exact .here rfl
    · exact .within rfl holds further

/-- A path that starts with more leads to the rest, one index earlier. -/
theorem reaches_behind_iff {index : Nat} {below : List Nat} {first step : Step}
    {rest : List Step}
    : Reaches ((index + 2) :: below) (first :: rest) step
      ↔ Reaches ((index + 1) :: below) rest step := by
  constructor
  · intro reaches
    cases reaches with
    | here isThere => exact .here isThere
    | within isThere holds further => exact .within isThere holds further
  · intro reaches
    cases reaches with
    | here isThere => exact .here isThere
    | within isThere holds further => exact .within isThere holds further

/-- A path into a list leads to its first step, into the body of that step, or into the rest. -/
theorem exists_reaches_cons_iff {first step : Step} {rest : List Step} (place : Nat)
    (path : List Nat)
    : (∃ index below,
        path = (place + index) :: below ∧ Reaches ((index + 1) :: below) (first :: rest) step)
      ↔ (path = [place] ∧ step = first)
        ∨ (∃ below body,
            path = place :: below ∧ first.body? = some body ∧ Reaches below body step)
        ∨ ∃ index below,
            path = (place + 1 + index) :: below ∧ Reaches ((index + 1) :: below) rest step := by
  constructor
  · rintro ⟨index, below, rfl, reaches⟩
    cases index with
    | zero =>
        rcases reaches_first_iff.mp reaches with ⟨rfl, rfl⟩ | ⟨body, holds, further⟩
        · exact .inl ⟨rfl, rfl⟩
        · exact .inr (.inl ⟨below, body, rfl, holds, further⟩)
    | succ index =>
        exact .inr (.inr ⟨index, below, by rw [Nat.add_assoc place, Nat.add_comm 1],
          reaches_behind_iff.mp reaches⟩)
  · rintro (⟨rfl, rfl⟩ | ⟨below, body, rfl, holds, further⟩ | ⟨index, below, rfl, reaches⟩)
    · exact ⟨0, [], rfl, reaches_first_iff.mpr (.inl ⟨rfl, rfl⟩)⟩
    · exact ⟨0, below, rfl, reaches_first_iff.mpr (.inr ⟨body, holds, further⟩)⟩
    · exact ⟨index + 1, below, by rw [Nat.add_assoc place, Nat.add_comm 1],
        reaches_behind_iff.mpr reaches⟩

/-- A path that leads anywhere starts with an index above zero. -/
theorem reaches_iff_numbered {path : List Nat} {steps : List Step} {step : Step}
    : Reaches path steps step
      ↔ ∃ index below,
          path = (1 + index) :: below ∧ Reaches ((index + 1) :: below) steps step := by
  constructor
  · intro reaches
    cases reaches with
    | here isThere => exact ⟨_, [], by rw [Nat.add_comm 1], .here isThere⟩
    | within isThere holds further =>
        exact ⟨_, _, by rw [Nat.add_comm 1], .within isThere holds further⟩
  · rintro ⟨index, below, rfl, reaches⟩
    rwa [Nat.add_comm 1]

/-- The sites are the steps that paths lead to, each with its path; the numbers of the list count on
from the first one.
-/
theorem mem_sitesFrom_iff (first : Nat) (steps : List Step) (path : List Nat) (step : Step)
    : (path, step) ∈ sitesFrom first steps
      ↔ ∃ index below,
          path = (first + index) :: below ∧ Reaches ((index + 1) :: below) steps step := by
  induction steps using steps_induction generalizing first path with
  | nil =>
      constructor
      · exact fun member => absurd member List.not_mem_nil
      · rintro ⟨index, below, -, reaches⟩
        cases reaches <;> simp_all
  | action id act rest ih =>
      rw [sitesFrom_action, List.mem_cons, ih, exists_reaches_cons_iff, Prod.mk.injEq]
      simp [Step.body?]
  | statement id stmt body rest bodyIH restIH =>
      have inBody
          : (path, step) ∈ (sitesFrom 1 body).map (fun site => (first :: site.1, site.2))
            ↔ ∃ below, path = first :: below ∧ Reaches below body step := by
        simp only [List.mem_map, Prod.mk.injEq, Prod.exists]
        constructor
        · rintro ⟨below, other, member, rfl, rfl⟩
          exact ⟨below, rfl, reaches_iff_numbered.mpr ((bodyIH 1 below).mp member)⟩
        · rintro ⟨below, rfl, reaches⟩
          exact ⟨below, step, (bodyIH 1 below).mpr (reaches_iff_numbered.mp reaches), rfl, rfl⟩
      rw [sitesFrom_statement, List.mem_cons, List.mem_append, inBody, restIH,
        exists_reaches_cons_iff, Prod.mk.injEq]
      simp [Step.body?]

/-- Paths into the rest of a list are above those to its first step and into it. -/
theorem sites_ordered (first : Nat) (steps : List Step)
    : ((sitesFrom first steps).map (·.1)).Pairwise (List.Lex (· < ·)) := by
  have above {first : Nat} {below path : List Nat} {rest : List Step}
      (inRest : path ∈ (sitesFrom (first + 1) rest).map (·.1))
      : List.Lex (· < ·) (first :: below) path := by
    obtain ⟨⟨other, step⟩, member, rfl⟩ := List.mem_map.mp inRest
    obtain ⟨index, lower, rfl, -⟩ := (mem_sitesFrom_iff ..).mp member
    exact .rel (by omega)
  induction steps using steps_induction generalizing first with
  | nil => exact .nil
  | action id act rest ih =>
      rw [sitesFrom_action, List.map_cons, List.pairwise_cons]
      exact ⟨fun path => above, ih (first + 1)⟩
  | statement id stmt body rest bodyIH restIH =>
      have inBody
          : ((sitesFrom 1 body).map fun site => (first :: site.1, site.2)).map (·.1)
            = ((sitesFrom 1 body).map (·.1)).map (first :: ·) := by
        rw [List.map_map, List.map_map]
        rfl
      rw [sitesFrom_statement, List.map_cons, List.map_append, inBody, List.pairwise_cons,
        List.pairwise_append, List.forall_mem_append]
      refine ⟨⟨?_, fun path => above⟩, ?_, restIH (first + 1), ?_⟩
      · rintro path isBelow
        obtain ⟨below, inBody, rfl⟩ := List.mem_map.mp isBelow
        obtain ⟨⟨other, step⟩, member, rfl⟩ := List.mem_map.mp inBody
        obtain ⟨index, lower, rfl, -⟩ := (mem_sitesFrom_iff ..).mp member
        exact .cons .nil
      · rw [List.pairwise_map]
        exact (bodyIH 1).imp fun less => .cons less
      · rintro path isBelow other inRest
        obtain ⟨below, -, rfl⟩ := List.mem_map.mp isBelow
        exact above inRest

-----------------------------------------------------------------------------------------
-- The first site of an id
-----------------------------------------------------------------------------------------

section FirstSite

variable (id : StepId)

/-- Looking for an id among sites, that of an action comes first if it has the id. -/
theorem find?_sitesFrom_action (first : Nat) (own : StepId) (act : Action) (rest : List Step)
    : (sitesFrom first (.action own act :: rest)).find? (·.2.id == id)
      = if own = id then
          some ([first], .action own act)
        else
          (sitesFrom (first + 1) rest).find? (·.2.id == id) := by
  rw [sitesFrom_action, List.find?_cons]
  by_cases same : own = id
  · simp [same]
  · simp [same, beq_false_of_ne same]

/-- Looking for an id among sites, that of a statement comes before those of its body. -/
theorem find?_sitesFrom_statement (first : Nat) (own : StepId) (stmt : Statement)
    (body rest : List Step)
    : (sitesFrom first (.statement own stmt body :: rest)).find? (·.2.id == id)
      = if own = id then
          some ([first], .statement own stmt body)
        else
          (((sitesFrom 1 body).find? (·.2.id == id)).map fun site => (first :: site.1, site.2)).or
            ((sitesFrom (first + 1) rest).find? (·.2.id == id)) := by
  rw [sitesFrom_statement, List.find?_cons, List.find?_append, List.find?_map]
  by_cases same : own = id
  · simp [same]
  · simp only [if_neg same, Step.statement_id, beq_false_of_ne same]
    rfl

/-- The path to an id is that of its first site, counted from zero. -/
theorem map_pathTo? (first : Nat) (steps : List Step)
    : (pathTo? id first steps).map (List.map (· + 1))
      = ((sitesFrom (first + 1) steps).find? (·.2.id == id)).map (·.1) := by
  induction steps using steps_induction generalizing first with
  | nil => rfl
  | action own act rest ih =>
      rw [pathTo?_action, find?_sitesFrom_action]
      split
      · rfl
      · exact ih (first + 1)
  | statement own stmt body rest bodyIH restIH =>
      rw [pathTo?_statement, find?_sitesFrom_statement]
      have inBody := bodyIH 0
      split
      · rfl
      · cases within : pathTo? id 0 body with
        | some path =>
            rw [within, Option.map_some, eq_comm, Option.map_eq_some_iff] at inBody
            obtain ⟨site, isFirst, isPath⟩ := inBody
            rw [isFirst]
            simp [isPath]
        | none =>
            rw [within, Option.map_none, eq_comm, Option.map_eq_none_iff] at inBody
            rw [inBody]
            exact restIH (first + 1)

-----------------------------------------------------------------------------------------
-- The search in place
-----------------------------------------------------------------------------------------

mutual

/-- Looks for an id in a step and in its body, with the path to the step. Tells whether the id is
found, and the path then.
-/
def Step.seek (path : List Nat) : Step → Bool × List Nat
  | .action own _ => (own = id, path)
  | .statement own _ body => if own = id then (true, path) else seek 1 path body

/-- Looks for an id in the steps of a list, with the path to the list; the first step has the number
`first`. The number of a step is put on the path, and taken off what its search leaves of it unless
the id is found.
-/
def seek (first : Nat) (path : List Nat) : List Step → Bool × List Nat
  | [] => (false, path)
  | step :: rest =>
    let sought := step.seek (path ++ [first])
    if sought.1 then sought else seek (first + 1) sought.2.dropLast rest

end

/-- The text of the path that the search in place leaves, empty if the id is not found. -/
def StepTree.positionInPlace (tree : StepTree) : String :=
  let sought := seek id 1 [] tree.steps
  if sought.1 then ".".intercalate (sought.2.map toString) else ""

/-- The search in place ends at the first site of the id; if there is none, it leaves the path as it
was. So what is taken off the path behind a step is the number of that step, by induction over the
nested lists.
-/
theorem seek_eq (first : Nat) (path : List Nat) (steps : List Step)
    : seek id first path steps
      = match (sitesFrom first steps).find? (·.2.id == id) with
        | some site => (true, path ++ site.1)
        | none => (false, path) := by
  induction steps using steps_induction generalizing first path with
  | nil => rfl
  | action own act rest ih =>
      rw [seek, Step.seek, find?_sitesFrom_action]
      by_cases same : own = id
      · simp [same]
      · simp [same, ih]
  | statement own stmt body rest bodyIH restIH =>
      rw [seek, Step.seek, find?_sitesFrom_statement]
      by_cases same : own = id
      · simp [same]
      · rw [if_neg same, if_neg same, bodyIH, restIH]
        cases (sitesFrom 1 body).find? (·.2.id == id) with
        | some site => simp
        | none => simp

end FirstSite

/-- A list of sites charts the steps of a tree: it has them in the order of a walk and of the paths,
each with a path that leads to it, and no other path leads to a step.
-/
structure Charts (steps : List Step) (sites : List (List Nat × Step)) : Prop where
  walked : sites.map (·.2) = walk steps
  reached : ∀ path step, (path, step) ∈ sites ↔ Reaches path steps step
  ordered : (sites.map (·.1)).Pairwise (List.Lex (· < ·))

namespace StepTree

/-- The sites of a tree are its steps with the paths that lead to them. -/
theorem charts_sites (tree : StepTree) : Charts tree.steps tree.sites where
  walked := (map_snd_sitesFrom 1 tree.steps).trans (walk_eq_listingOf tree.steps).symm
  reached path step :=
    (mem_sitesFrom_iff 1 tree.steps path step).trans reaches_iff_numbered.symm
  ordered := sites_ordered 1 tree.steps

/-- The step that a search by the id finds is that of the first site with the id. -/
theorem find?_eq_site (tree : StepTree) (id : StepId)
    : tree.find? id = (tree.sites.find? (·.2.id == id)).map (·.2) := by
  rw [find?, toList_eq, ← map_snd_sitesFrom 1, List.find?_map]
  rfl

/-- A position is empty exactly if no step has the id. -/
theorem positionPath_eq_empty_iff (tree : StepTree) (id : StepId)
    : tree.positionPath id = "" ↔ tree.find? id = none := by
  have exists? := pathTo?_isSome id 0 tree.steps
  rw [positionPath, path?, find?, toList_eq]
  cases isPath : pathTo? id 0 tree.steps with
  | some path =>
      obtain ⟨place, below, step, rfl, isFirst, -⟩ := leads_of_pathTo? isPath
      simp [isFirst, pathText_ne_empty]
  | none =>
      rw [isPath, Option.isSome_none, eq_comm, Option.isSome_eq_false_iff] at exists?
      simpa using exists?

/-- A position spells the path to the first site of the id, and the path can be read from it. -/
theorem positionPath_of_site {tree : StepTree} {id : StepId} {site : List Nat × Step}
    (isFirst : tree.sites.find? (·.2.id == id) = some site)
    : tree.positionPath id = ".".intercalate (site.1.map toString)
      ∧ placesOf (tree.positionPath id) = site.1 := by
  have numbers := map_pathTo? id 0 tree.steps
  rw [Nat.zero_add, ← sites, isFirst, Option.map_some, Option.map_eq_some_iff] at numbers
  obtain ⟨path, isPath, numbers⟩ := numbers
  have text : tree.positionPath id = pathText path := by rw [positionPath, path?, isPath]
  rw [text, ← numbers, List.map_map]
  obtain ⟨place, below, -, rfl, -⟩ := leads_of_pathTo? isPath
  exact ⟨rfl, placesOf_pathText (List.cons_ne_nil _ _)⟩

/-- Looking for a position step by step finds the one of the first site. -/
theorem positionInPlace_eq_positionPath (tree : StepTree) (id : StepId)
    : tree.positionInPlace id = tree.positionPath id := by
  rw [positionInPlace, seek_eq, ← sites]
  cases isFirst : tree.sites.find? (·.2.id == id) with
  | some site => exact (positionPath_of_site isFirst).1.symm
  | none =>
      refine ((tree.positionPath_eq_empty_iff id).mpr ?_).symm
      rw [find?_eq_site, isFirst, Option.map_none]

/-- The position of an id is empty exactly if no step has it. Otherwise it spells a path from the
steps of the tree to the step that a search finds, in numbers that count from one: the first site
in the order of a walk whose step has the id. The search that pushes and pops numbers on one path
finds the same position. Ids may repeat.
-/
theorem positionPath_addresses (tree : StepTree) (id : StepId)
    : Charts tree.steps tree.sites
      ∧ tree.positionInPlace id = tree.positionPath id
      ∧ (tree.positionPath id = "" ↔ tree.find? id = none)
      ∧ ∀ step, tree.find? id = some step →
          ∃ before path behind,
            tree.sites = before ++ (path, step) :: behind
            ∧ (∀ site ∈ before, site.2.id ≠ id)
            ∧ step.id = id
            ∧ Reaches path tree.steps step
            ∧ tree.positionPath id = ".".intercalate (path.map toString)
            ∧ placesOf (tree.positionPath id) = path := by
  refine ⟨tree.charts_sites, tree.positionInPlace_eq_positionPath id,
    tree.positionPath_eq_empty_iff id, fun step found => ?_⟩
  rw [find?_eq_site, Option.map_eq_some_iff] at found
  obtain ⟨⟨path, other⟩, isFirst, rfl⟩ := found
  obtain ⟨spelled, readBack⟩ := positionPath_of_site isFirst
  obtain ⟨hasId, before, behind, parts, others⟩ := List.find?_eq_some_iff_append.mp isFirst
  have reaches : Reaches path tree.steps other :=
    (tree.charts_sites.reached path other).mp (List.mem_of_find?_eq_some isFirst)
  refine ⟨before, path, behind, parts, ?_, eq_of_beq hasId, reaches, spelled, readBack⟩
  intro site isBefore hasIdToo
  have differs := others site isBefore
  rw [hasIdToo, beq_self_eq_true] at differs
  exact absurd differs (by decide)

/-- Two steps within the second step have the id, and one behind it. -/
theorem positionPath_addresses_repeated
    : let sleep (id : UInt64) : Step := .action ⟨id⟩ (.sleep 0)
      let cycle (id : UInt64) (body : List Step) : Step :=
        .statement ⟨id⟩ (.cycle "rows" "row") body
      let tree : StepTree :=
        ⟨[cycle 1 [sleep 2], cycle 3 [sleep 4, cycle 5 [], cycle 5 [sleep 5]], sleep 5]⟩
      tree.find? ⟨5⟩ = some (cycle 5 [])
      ∧ Reaches [2, 2] tree.steps (cycle 5 [])
      ∧ tree.positionPath ⟨5⟩ = "2.2" := by
  intro sleep cycle tree
  have found : tree.find? ⟨5⟩ = some (cycle 5 []) := by decide +kernel
  have position : tree.positionPath ⟨5⟩ = "2.2" := by decide +kernel
  obtain ⟨-, -, -, addresses⟩ := tree.positionPath_addresses ⟨5⟩
  obtain ⟨before, path, behind, -, -, -, reaches, -, readBack⟩ := addresses _ found
  have isPath : path = [2, 2] := by
    rw [← readBack, position]
    decide +kernel
  rw [isPath] at reaches
  exact ⟨found, reaches, position⟩

end StepTree

end DesktopAutomation
