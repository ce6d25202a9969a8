import DesktopAutomation.Proofs.Environment.Bindings
import DesktopAutomation.Proofs.Environment.RoundTrip
import DesktopAutomation.Proofs.Tree.Accounting

/-! Steps in which every name of a variable is replaced by its key. Two steps have the same keyed
form exactly if they differ in nothing but the spelling of such names; and an environment does not
tell a name from its key.
-/

namespace DesktopAutomation

-----------------------------------------------------------------------------------------
-- Keyed forms
-----------------------------------------------------------------------------------------

def ConditionSide.keyed : ConditionSide → ConditionSide
  | .literal text => .literal text
  | .variable name => .variable (keyOf name)

def Condition.keyed (condition : Condition) : Condition where
  left := condition.left.keyed
  operator := condition.operator
  right := condition.right.keyed

def Action.keyed : Action → Action
  | .write text readFrom => .write text (keyOf readFrom)
  | .parseString text readFrom divider saveAs =>
    .parseString text (keyOf readFrom) divider (keyOf saveAs)
  | .setVariable saveAs value => .setVariable (keyOf saveAs) value
  | .destructVariable readFrom index saveAs =>
    .destructVariable (keyOf readFrom) index (keyOf saveAs)
  | .move target => .move target
  | .click button => .click button
  | .sleep time => .sleep time
  | .pressKeyboard combination => .pressKeyboard combination

def Statement.keyed : Statement → Statement
  | .cycle iterable saveItemsAs => .cycle (keyOf iterable) (keyOf saveItemsAs)
  | .conditional condition => .conditional condition.keyed

mutual

/-- The step with every name in it replaced by its key. -/
def Step.keyed : Step → Step
  | .action id act => .action id act.keyed
  | .statement id stmt body => .statement id stmt.keyed (keyedAll body)

/-- The steps with every name in them replaced by its key. -/
def keyedAll : List Step → List Step
  | [] => []
  | step :: rest => step.keyed :: keyedAll rest

end

/-- Steps of a list are keyed one by one. -/
theorem keyedAll_eq_map (steps : List Step) : keyedAll steps = steps.map Step.keyed := by
  induction steps with
  | nil => rfl
  | cons step rest ih => rw [keyedAll, ih, List.map_cons]

theorem keyedAll_append (before after : List Step)
    : keyedAll (before ++ after) = keyedAll before ++ keyedAll after := by
  simp only [keyedAll_eq_map, List.map_append]

namespace Step

theorem keyed_action (id : StepId) (act : Action)
    : (Step.action id act).keyed = .action id act.keyed := by
  rw [keyed]

theorem keyed_statement (id : StepId) (stmt : Statement) (body : List Step)
    : (Step.statement id stmt body).keyed = .statement id stmt.keyed (keyedAll body) := by
  rw [keyed]

@[simp] theorem keyed_id (step : Step) : step.keyed.id = step.id := by
  cases step <;> rw [keyed] <;> rfl

/-- The body of a keyed step is its body, keyed. -/
@[simp] theorem keyed_body? (step : Step) : step.keyed.body? = step.body?.map keyedAll := by
  cases step <;> rw [keyed] <;> rfl

/-- A step holds steps in either spelling. -/
@[simp] theorem keyed_isContainer (step : Step) : step.keyed.isContainer = step.isContainer := by
  rw [isContainer, keyed_body?, Option.isSome_map, isContainer]

/-- Giving a step an id does not touch its names. -/
theorem keyed_withId (id : StepId) (step : Step)
    : (step.withId id).keyed = step.keyed.withId id := by
  cases step <;> simp only [withId, keyed]

/-- A keyed step with a keyed body is the step with this body, keyed. -/
theorem keyed_withBody (body : List Step) (step : Step)
    : (step.withBody body).keyed = step.keyed.withBody (keyedAll body) := by
  cases step <;> simp only [withBody, keyed]

/-- Two steps are the same kind of container in either spelling. -/
@[simp] theorem keyed_sameContainer (step other : Step)
    : step.keyed.sameContainer other.keyed = step.sameContainer other := by
  cases step with
  | action id act => simp only [keyed, sameContainer]
  | statement id stmt body =>
      cases other with
      | action id act => simp only [keyed, sameContainer]
      | statement other otherStmt otherBody =>
          cases stmt <;> cases otherStmt <;> simp [keyed, sameContainer, Statement.keyed,
            Statement.sameKind]

/-- A move has its target in either spelling. -/
@[simp] theorem keyed_target? (step : Step) : step.keyed.target? = step.target? := by
  cases step with
  | action id act => cases act <;> simp [keyed, Action.keyed, target?]
  | statement id stmt body => simp [keyed, target?]

/-- A keyed step declares the same variable under the key of its name. -/
theorem keyed_declaration? (step : Step)
    : step.keyed.declaration?
      = step.declaration?.map fun (name, declared) => (keyOf name, declared) := by
  cases step with
  | action id act =>
      cases act <;> simp [keyed, Action.keyed, declaration?, Action.declaration?]
  | statement id stmt body =>
      cases stmt <;> simp [keyed, Statement.keyed, declaration?, Statement.declaration?]

/-- A keyed step declares the key of the name that the step declares. -/
@[simp] theorem keyed_declaredName? (step : Step)
    : step.keyed.declaredName? = step.declaredKey? := by
  rw [declaredName?, keyed_declaration?, declaredKey?, declaredName?, Option.map_map,
    Option.map_map]
  rfl

/-- A step declares one key in either spelling, for a key is its own key. -/
@[simp] theorem keyed_declaredKey? (step : Step)
    : step.keyed.declaredKey? = step.declaredKey? := by
  rw [declaredKey?, keyed_declaredName?, declaredKey?, Option.map_map]
  simp only [Function.comp_def, keyOf_keyOf]

end Step

/-- Keyed steps are listed in the same order, by induction over the nested lists. -/
theorem listingOf_keyedAll (steps : List Step)
    : listingOf (keyedAll steps) = keyedAll (listingOf steps) := by
  induction steps using steps_induction with
  | nil => rfl
  | action id act rest ih =>
      rw [keyedAll, Step.keyed_action, listingOf_action, listingOf_action, keyedAll, ih,
        Step.keyed_action]
  | statement id stmt body rest bodyIH restIH =>
      rw [keyedAll, Step.keyed_statement, listingOf_statement, listingOf_statement, keyedAll,
        Step.keyed_statement, keyedAll_append, bodyIH, restIH]

/-- Keyed steps are walked in the order of the steps. -/
theorem walk_keyedAll (steps : List Step) : walk (keyedAll steps) = keyedAll (walk steps) := by
  simp only [walk_eq_listingOf, listingOf_keyedAll]

/-- The error with the name in it replaced by its key. -/
def RunError.keyed : RunError → RunError
  | .variableNotFound step name => .variableNotFound step (keyOf name)
  | .variableType step name expected found => .variableType step (keyOf name) expected found
  | .backend step cause => .backend step cause
  | .cancelled => .cancelled

/-- The conflict with the name in it replaced by its key. -/
def ConflictError.keyed : ConflictError → ConflictError
  | .variableOwned name owner => .variableOwned (keyOf name) owner
  | .stepIdTaken id => .stepIdTaken id
  | .notAContainer id => .notAContainer id
  | .pointerOutOfBounds target => .pointerOutOfBounds target
  | .fileExists fileName => .fileExists fileName

/-- The error with the name in it replaced by its key, if it is a conflict about a name. -/
def AutomationError.keyed : AutomationError → AutomationError
  | .conflict cause => .conflict cause.keyed
  | .document cause => .document cause
  | .notFound missing => .notFound missing
  | .storage cause => .storage cause
  | .backend cause => .backend cause

-----------------------------------------------------------------------------------------
-- Environments
-----------------------------------------------------------------------------------------

namespace Environment

/-- A key finds what its name finds. -/
@[simp] theorem get?_keyOf (environment : Environment) (name : String)
    : environment.get? (keyOf name) = environment.get? name := by
  simp only [get?, keyOf_keyOf]

/-- A key is bound like its name. -/
@[simp] theorem set_keyOf (environment : Environment) (name : String) (binding : Variable)
    : environment.set (keyOf name) binding = environment.set name binding := by
  simp only [set, keyOf_keyOf]

/-- A key is deleted like its name. -/
@[simp] theorem delete_keyOf (environment : Environment) (name : String)
    : environment.delete (keyOf name) = environment.delete name := by
  simp only [delete, keyOf_keyOf]

/-- A key is shadowed like its name. -/
@[simp] theorem shadow_keyOf (environment : Environment) (name : String) (binding : Variable)
    : environment.shadow (keyOf name) binding = environment.shadow name binding := by
  simp only [shadow, keyOf_keyOf]

/-- Keys are deleted like their names, by induction over these. -/
@[simp] theorem deleteAll_keyOf (environment : Environment) (names : List String)
    : environment.deleteAll (names.map keyOf) = environment.deleteAll names := by
  induction names generalizing environment with
  | nil => rfl
  | cons name rest ih =>
      rw [List.map_cons, deleteAll, deleteAll, delete_keyOf, ih, lasting?, lasting?, keyOf_keyOf]

end Environment

end DesktopAutomation
