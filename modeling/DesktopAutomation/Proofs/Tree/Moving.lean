import DesktopAutomation.Proofs.Tree.Undoing

/-! Moves of steps among their siblings. The siblings stand somewhere in a tree, between all that a
walk comes by before and behind them; a move rearranges them alone, and the move from the
destination to the source takes it back. No index is out of range on the way.
-/

namespace DesktopAutomation

-----------------------------------------------------------------------------------------
-- Items of a list
-----------------------------------------------------------------------------------------

section Items
variable {α : Type} {source destination : Nat} {items moved : List α}

/-- The item at the source has come to the destination, and the others are in the order in which
they were.
-/
structure Moved (source destination : Nat) (items moved : List α) : Prop where
  there : ∃ item, items[source]? = some item ∧ moved[destination]? = some item
  others : moved.eraseIdx destination = items.eraseIdx source

theorem Moved.symm (move : Moved source destination items moved)
    : Moved destination source moved items := by
  obtain ⟨⟨item, before, after⟩, others⟩ := move
  exact ⟨⟨item, after, before⟩, others.symm⟩

theorem Moved.inside (move : Moved source destination items moved)
    : source < items.length ∧ destination < items.length := by
  obtain ⟨⟨item, before, after⟩, others⟩ := move
  have sourceInside := (List.getElem?_eq_some_iff.mp before).1
  have destinationInside := (List.getElem?_eq_some_iff.mp after).1
  have lengths := congrArg List.length others
  rw [List.length_eraseIdx_of_lt sourceInside, List.length_eraseIdx_of_lt destinationInside]
    at lengths
  omega

theorem length_eraseIdx_place (sourceInside : source < items.length)
    (destinationInside : destination < items.length)
    : destination ≤ (items.eraseIdx source).length := by
  rw [List.length_eraseIdx_of_lt sourceInside]
  omega

/-- Moving an item is the only way to bring it from the source to the destination and to leave the
others in their order.
-/
theorem moved_iff
    : Moved source destination items moved
      ↔ (source < items.length ∧ destination < items.length)
        ∧ moveItem source destination items = moved := by
  constructor
  · intro move
    refine ⟨move.inside, ?_⟩
    obtain ⟨⟨item, before, after⟩, others⟩ := move
    obtain ⟨inside, rfl⟩ := List.getElem?_eq_some_iff.mp after
    rw [moveItem, before, ← others]
    exact List.insertIdx_eraseIdx_getElem inside
  · rintro ⟨⟨sourceInside, destinationInside⟩, rfl⟩
    have room := length_eraseIdx_place sourceInside destinationInside
    rw [moveItem, List.getElem?_eq_getElem sourceInside]
    constructor
    · refine ⟨items[source], List.getElem?_eq_getElem sourceInside, ?_⟩
      simp [List.getElem?_insertIdx_self, room]
    · exact List.eraseIdx_insertIdx_self ..

/-- A move from the destination to the source takes back the move there. -/
theorem moveItem_moveItem (inside : source < items.length ∧ destination < items.length)
    : moveItem destination source (moveItem source destination items) = items :=
  (moved_iff.mp (moved_iff.mpr ⟨inside, rfl⟩).symm).2

/-- Takes out the item at a place, which must be in the list. -/
def takeAt? (place : Nat) (items : List α) : Option (α × List α) :=
  items[place]?.map fun item => (item, items.eraseIdx place)

/-- Puts in an item at a place, which must be in the list or at its end. -/
def putAt? (place : Nat) (item : α) (items : List α) : Option (List α) :=
  if place ≤ items.length then some (items.insertIdx place item) else none

/-- Behind an item that was taken out there is room for it at every place of the list. -/
theorem putAt?_of_takeAt? (inside : source < items.length ∧ destination < items.length)
    : (takeAt? source items).bind (fun (item, left) => putAt? destination item left)
      = some (moveItem source destination items) := by
  have room := length_eraseIdx_place inside.1 inside.2
  rw [takeAt?, moveItem, List.getElem?_eq_getElem inside.1, Option.map_some, Option.bind_some]
  exact if_pos room

end Items

-----------------------------------------------------------------------------------------
-- Levels
-----------------------------------------------------------------------------------------

/-- A level of a tree: a statement that holds a list of steps, and the steps on both sides of it. -/
structure Level where
  before : List Step
  id : StepId
  stmt : Statement
  behind : List Step

/-- The steps of a level, with a list of steps as the body of its statement. -/
def Level.around (level : Level) (body : List Step) : List Step :=
  level.before ++ .statement level.id level.stmt body :: level.behind

/-- A list of steps with some levels around it, the outermost one first. -/
def around (levels : List Level) (steps : List Step) : List Step :=
  levels.foldr Level.around steps

/-- The ids that a walk comes by on its way through the levels into the list. -/
def idsPassed (levels : List Level) : List StepId :=
  levels.flatMap fun level => (listingOf level.before).map Step.id ++ [level.id]

/-- The way into a container: there is none to the steps of the tree, and that into a step with an
id ends with the first step that has it.
-/
inductive LeadsInto : Option StepId → List Level → Prop
  | top : LeadsInto none []
  | body {id : StepId} {levels : List Level} {ids : List StepId}
    (passed : idsPassed levels = ids ++ [id]) (first : id ∉ ids) : LeadsInto (some id) levels

namespace LeadsInto
variable {id : StepId} {levels : List Level}

theorem here (id : StepId) (stmt : Statement) (behind : List Step)
    : LeadsInto (some id) [⟨[], id, stmt, behind⟩] :=
  @body _ _ [] rfl List.not_mem_nil

theorem within {own : StepId} (differs : own ≠ id) (stmt : Statement) (behind : List Step)
    (leads : LeadsInto (some id) levels)
    : LeadsInto (some id) (⟨[], own, stmt, behind⟩ :: levels) := by
  cases leads with
  | @body _ _ ids passed first =>
      refine @body _ _ (own :: ids) ?_ ?_
      · rw [idsPassed, List.flatMap_cons, ← idsPassed, passed]
        rfl
      · rw [List.mem_cons, not_or]
        exact ⟨differs.symm, first⟩

/-- A step that neither has the id nor holds it may stand before the outermost level. -/
theorem past {step : Step} (absent : id ∉ step.listing.map Step.id)
    (leads : LeadsInto (some id) levels)
    : ∃ longer,
        LeadsInto (some id) longer
        ∧ ∀ steps, around longer steps = step :: around levels steps := by
  cases leads with
  | @body _ _ ids passed first =>
      cases levels with
      | nil => exact absurd passed (by simp [idsPassed])
      | cons level inner =>
          refine ⟨{ level with before := step :: level.before } :: inner, ?_, fun _ => rfl⟩
          refine @body _ _ (step.listing.map Step.id ++ ids) ?_ ?_
          · rw [List.append_assoc, ← passed]
            simp only [idsPassed, List.flatMap_cons, listingOf, List.map_append, List.append_assoc]
          · exact List.not_mem_append absent first

end LeadsInto

/-- What is written to the body of a step that is found comes to stand within the levels that lead
into it, by induction over the nested lists.
-/
theorem levels_of_slot? {id own : StepId} {steps body : List Step} {stmt : Statement}
    {slot : Slot (List Step)} (found : slot? id steps = some slot)
    (isStatement : slot.step = .statement own stmt body)
    : ∃ levels,
        LeadsInto (some id) levels
        ∧ ∀ others, slot.put (.statement own stmt others) = around levels others := by
  induction steps using steps_induction generalizing slot with
  | nil => simp [slot?] at found
  | action first act rest ih =>
      rw [slot?_action] at found
      split at found
      · obtain rfl := Option.some.inj found
        simp at isStatement
      · next differs =>
          obtain ⟨inner, inRest, rfl⟩ := Option.map_eq_some_iff.mp found
          obtain ⟨levels, leads, written⟩ := ih inRest isStatement
          have absent : id ∉ (Step.action first act).listing.map Step.id := by
            simpa [Step.listing] using Ne.symm differs
          obtain ⟨longer, leads, same⟩ := leads.past absent
          exact ⟨longer, leads, fun others => by rw [same, ← written]; rfl⟩
  | statement first other inside rest bodyIH restIH =>
      rw [slot?_statement] at found
      split at found
      · next same =>
          obtain rfl := Option.some.inj found
          obtain ⟨rfl, rfl, rfl⟩ := Step.statement.inj isStatement
          subst same
          exact ⟨_, LeadsInto.here first other rest, fun _ => rfl⟩
      · next differs =>
          split at found
          · next inner inBody =>
              obtain rfl := Option.some.inj found
              obtain ⟨levels, leads, written⟩ := bodyIH inBody isStatement
              refine ⟨_, leads.within differs other rest, fun others => ?_⟩
              rw [around, List.foldr_cons, ← around, ← written]
              rfl
          · next notInBody =>
              obtain ⟨inner, inRest, rfl⟩ := Option.map_eq_some_iff.mp found
              obtain ⟨levels, leads, written⟩ := restIH inRest isStatement
              have absent : id ∉ (Step.statement first other inside).listing.map Step.id := by
                have unlisted := slot?_step id inside
                rw [notInBody, Option.map_none, eq_comm, List.find?_eq_none] at unlisted
                rw [Step.listing, List.map_cons, List.mem_cons, not_or]
                refine ⟨Ne.symm differs, fun listed => ?_⟩
                obtain ⟨step, isInside, same⟩ := List.mem_map.mp listed
                exact unlisted step isInside (beq_iff_eq.mpr same)
              obtain ⟨longer, leads, same⟩ := leads.past absent
              exact ⟨longer, leads, fun others => by rw [same, ← written]; rfl⟩

-----------------------------------------------------------------------------------------
-- Siblings
-----------------------------------------------------------------------------------------

namespace StepTree

/-- The steps in a container: those of the tree, or those in the body of the first step with an id,
which must be a statement.
-/
inductive SiblingsIn (tree : StepTree) : Option StepId → List Step → Prop
  | top : tree.SiblingsIn none tree.steps
  | body {id : StepId} {stmt : Statement} {siblings before behind : List Step}
    (walked : tree.toList = before ++ .statement id stmt siblings :: behind)
    (first : ∀ step ∈ before, step.id ≠ id) : tree.SiblingsIn (some id) siblings

theorem siblings?_eq_some_iff {tree : StepTree} {container : Option StepId}
    {siblings : List Step}
    : tree.siblings? container = some siblings ↔ tree.SiblingsIn container siblings := by
  constructor
  · intro listed
    cases container with
    | none =>
        obtain rfl := Option.some.inj listed
        exact .top
    | some id =>
        obtain ⟨step, found, isBody⟩ := Option.bind_eq_some_iff.mp listed
        obtain ⟨same, before, behind, walked, others⟩ := List.find?_eq_some_iff_append.mp found
        cases step with
        | action own act => simp [Step.body?] at isBody
        | statement own stmt body =>
            obtain rfl := Option.some.inj isBody
            obtain rfl : own = id := eq_of_beq same
            exact .body walked fun step isBefore => by simpa using others step isBefore
  · intro inContainer
    cases inContainer with
    | top => rfl
    | @body id stmt _ before behind walked first =>
        have found : tree.find? id = some (.statement id stmt siblings) := by
          rw [find?, List.find?_eq_some_iff_append]
          exact ⟨beq_self_eq_true id, before, behind, walked,
            fun step isBefore => by simpa using first step isBefore⟩
        rw [siblings?, found]
        rfl

/-- Siblings stand within levels that lead to them, where any other siblings are found as well. -/
theorem exists_levels {tree : StepTree} {container : Option StepId} {siblings : List Step}
    (inContainer : tree.SiblingsIn container siblings)
    : ∃ levels,
        LeadsInto container levels
        ∧ tree = ⟨around levels siblings⟩
        ∧ ∀ others,
            siblingsSlot? ⟨around levels others⟩ container
            = some (others, fun steps => ⟨around levels steps⟩) := by
  obtain ⟨put, writable, same, -⟩ := siblingsSlot?_of_listed (siblings?_eq_some_iff.mpr inContainer)
  obtain ⟨levels, leads, written⟩
      : ∃ levels, LeadsInto container levels ∧ ∀ others, put others = ⟨around levels others⟩ := by
    cases container with
    | none =>
        obtain ⟨rfl, rfl⟩ := Prod.mk.inj (Option.some.inj writable)
        exact ⟨[], .top, fun _ => rfl⟩
    | some id =>
        obtain ⟨own, stmt, write, found, rfl⟩ := siblingsSlot?_of_some writable
        obtain ⟨levels, leads, written⟩ := levels_of_slot? found rfl
        exact ⟨levels, leads, fun others => congrArg mk (written others)⟩
  obtain rfl : put = fun steps => ⟨around levels steps⟩ := funext written
  exact ⟨levels, leads, same.symm, siblingsSlot?_of_written writable⟩

-----------------------------------------------------------------------------------------
-- Moves
-----------------------------------------------------------------------------------------

/-- Moves a step in place, which tells whether it could be moved. The bounds are checked where the
siblings are listed, and the siblings that are edited are searched for again; there is no result if
a place is out of range in these.
-/
def reorderInPlace (tree : StepTree) (source destination : Nat) (container : Option StepId)
    : Option (Bool × StepTree) :=
  match tree.siblings? container with
  | none => some (false, tree)
  | some listed =>
    if listed.length ≤ source ∨ listed.length ≤ destination then some (false, tree)
    else if source = destination then some (true, tree)
    else
      match tree.siblingsSlot? container with
      | none => some (false, tree)
      | some (siblings, put) =>
        ((takeAt? source siblings).bind fun (step, left) => putAt? destination step left).map
          fun moved => (true, put moved)

theorem reorderInPlace_eq_editInPlace (tree : StepTree) (source destination : Nat)
    (container : Option StepId)
    : let edited := tree.editInPlace (.reorder source destination container)
      tree.reorderInPlace source destination container = some (edited.1.isSome, edited.2) := by
  rw [reorderInPlace, editInPlace]
  cases listed : tree.siblings? container with
  | none => rfl
  | some siblings =>
      obtain ⟨put, writable, -, -⟩ := siblingsSlot?_of_listed listed
      by_cases outside : siblings.length ≤ source ∨ siblings.length ≤ destination
      · simp only [if_pos outside, Option.isSome_none]
      · by_cases stays : source = destination
        · simp only [if_neg outside, if_pos stays, Option.isSome_some]
        · have inside : source < siblings.length ∧ destination < siblings.length := by omega
          simp only [if_neg outside, if_neg stays, writable, putAt?_of_takeAt? inside,
            Option.map_some, Option.isSome_some]

/-- A move in place never comes upon a place that is out of range. -/
theorem reorderInPlace_eq (tree : StepTree) (source destination : Nat)
    (container : Option StepId)
    : let moved? := tree.reorder? source destination container
      tree.reorderInPlace source destination container
      = some (moved?.isSome, moved?.getD tree) := by
  intro moved?
  rw [reorderInPlace_eq_editInPlace, editInPlace_reorder, edited?]
  cases isMoved : tree.reorder? source destination container <;> simp [moved?, isMoved, settle]

theorem reorder?_of_siblingsSlot? {tree : StepTree} {container : Option StepId}
    {siblings : List Step} {put : List Step → StepTree}
    (writable : tree.siblingsSlot? container = some (siblings, put)) (source destination : Nat)
    : tree.reorder? source destination container
      = if source < siblings.length ∧ destination < siblings.length then
          some (put (moveItem source destination siblings))
        else
          none := by
  have listed : tree.siblings? container = some siblings := by
    rw [← siblingsSlot?_listed, writable, Option.map_some]
  rw [reorder?, listed, Option.bind_eq_bind, Option.bind_some, ← siblingsSlot?_put, writable,
    Option.map_some]

theorem reorder?_isSome_iff (tree : StepTree) (source destination : Nat)
    (container : Option StepId)
    : (tree.reorder? source destination container).isSome
      ↔ ∃ siblings,
          tree.SiblingsIn container siblings
          ∧ source < siblings.length
          ∧ destination < siblings.length := by
  constructor
  · intro isMoved
    obtain ⟨after, isMoved⟩ := Option.isSome_iff_exists.mp isMoved
    obtain ⟨siblings, listed, isMoved⟩ := Option.bind_eq_some_iff.mp isMoved
    split at isMoved
    · next inside => exact ⟨siblings, siblings?_eq_some_iff.mp listed, inside⟩
    · simp at isMoved
  · rintro ⟨siblings, inContainer, inside⟩
    obtain ⟨levels, -, rfl, slots⟩ := exists_levels inContainer
    rw [reorder?_of_siblingsSlot? (slots siblings), if_pos inside, Option.isSome_some]

/-- A step is moved exactly if its container is the tree or the first step with an id, a statement,
and both places are in the list of its steps. Then the levels around this list stay, the list is
rearranged by the one move, and the move back restores the tree. A move that is carried out in place
leaves the tree as it is in all other cases, and comes upon no place that is out of range. Ids may
repeat.
-/
theorem reorder?_moves (tree : StepTree) (source destination : Nat)
    (container : Option StepId)
    : let moved? := tree.reorder? source destination container
      (moved?.isSome
        ↔ ∃ siblings,
            tree.SiblingsIn container siblings
            ∧ source < siblings.length
            ∧ destination < siblings.length)
      ∧ (∀ after, moved? = some after →
          ∃ levels siblings moved,
            LeadsInto container levels
            ∧ tree.SiblingsIn container siblings
            ∧ tree.steps = around levels siblings
            ∧ after.steps = around levels moved
            ∧ Moved source destination siblings moved
            ∧ after.reorder? destination source container = some tree)
      ∧ tree.reorderInPlace source destination container
        = some (moved?.isSome, moved?.getD tree) := by
  intro moved?
  refine ⟨tree.reorder?_isSome_iff .., fun after isMoved => ?_, tree.reorderInPlace_eq ..⟩
  obtain ⟨siblings, inContainer, inside⟩ :=
    (tree.reorder?_isSome_iff ..).mp (Option.isSome_of_eq_some isMoved)
  obtain ⟨levels, leads, rfl, slots⟩ := exists_levels inContainer
  let moved := moveItem source destination siblings
  have move : Moved source destination siblings moved := moved_iff.mpr ⟨inside, rfl⟩
  have isAfter := reorder?_of_siblingsSlot? (slots siblings) source destination
  rw [if_pos inside] at isAfter
  obtain rfl := Option.some.inj (isAfter.symm.trans isMoved)
  refine ⟨levels, siblings, moved, leads, inContainer, rfl, rfl, move, ?_⟩
  rw [reorder?_of_siblingsSlot? (slots moved), if_pos move.symm.inside, moveItem_moveItem inside]

/-- The first step with the id holds another one that has it, and one more stands behind it. -/
theorem reorder?_moves_repeated
    : let sleep (id : UInt64) : Step := .action ⟨id⟩ (.sleep 0)
      let cycle (id : UInt64) (body : List Step) : Step :=
        .statement ⟨id⟩ (.cycle "rows" "row") body
      let within (body : List Step) : StepTree :=
        ⟨[sleep 1, cycle 2 [sleep 3, cycle 4 body, sleep 5], cycle 4 [sleep 6, sleep 7]]⟩
      let siblings := [sleep 4, cycle 4 [], sleep 3, sleep 4]
      let moved := [cycle 4 [], sleep 3, sleep 4, sleep 4]
      (within siblings).reorder? 0 2 (some ⟨4⟩) = some (within moved)
      ∧ Moved 0 2 siblings moved
      ∧ (within moved).reorder? 2 0 (some ⟨4⟩) = some (within siblings) := by
  intro sleep cycle within siblings moved
  have isMoved : (within siblings).reorder? 0 2 (some ⟨4⟩) = some (within moved) := by
    decide +kernel
  obtain ⟨-, moves, -⟩ := (within siblings).reorder?_moves 0 2 (some ⟨4⟩)
  obtain ⟨-, -, -, -, -, -, -, -, back⟩ := moves _ isMoved
  exact ⟨isMoved, moved_iff.mpr ⟨by decide, rfl⟩, back⟩

end StepTree

end DesktopAutomation
