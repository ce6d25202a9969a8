import DesktopAutomation.Step.Basic

/-! What a run of steps depends on beside the screen: their times, and the names whose variables they
use.
-/

namespace DesktopAutomation

-----------------------------------------------------------------------------------------
-- Steps without times
-----------------------------------------------------------------------------------------

/-- The action, without the time if it is a sleep. -/
def Action.untimed : Action → Action
  | .sleep _ => .sleep 0
  | .move target => .move target
  | .click button => .click button
  | .write text readFrom => .write text readFrom
  | .parseString text readFrom divider saveAs => .parseString text readFrom divider saveAs
  | .pressKeyboard combination => .pressKeyboard combination
  | .setVariable saveAs value => .setVariable saveAs value
  | .destructVariable readFrom index saveAs => .destructVariable readFrom index saveAs

mutual

/-- The step, without the times of all sleeps in it. -/
def Step.untimed : Step → Step
  | .action id act => .action id act.untimed
  | .statement id stmt body => .statement id stmt (untimedAll body)

/-- The steps, without the times of all sleeps in them. -/
def untimedAll : List Step → List Step
  | [] => []
  | step :: rest => step.untimed :: untimedAll rest

end

/-- Actions that differ in times only are equal or sleeps. -/
theorem Action.eq_or_sleep_of_untimed {act other : Action} (same : act.untimed = other.untimed)
    : act = other ∨ ∃ time otherTime, act = .sleep time ∧ other = .sleep otherTime := by
  cases act <;> cases other <;> simp_all [untimed]

theorem Step.eq_action_of_untimed {id : StepId} {act : Action} {other : Step}
    (same : (Step.action id act).untimed = other.untimed)
    : ∃ otherAct, other = .action id otherAct ∧ act.untimed = otherAct.untimed := by
  cases other with
  | action own otherAct =>
      simp only [untimed, Step.action.injEq] at same
      exact ⟨otherAct, by rw [same.1], same.2⟩
  | statement own stmt body => simp [untimed] at same

theorem Step.eq_statement_of_untimed {id : StepId} {stmt : Statement} {body : List Step}
    {other : Step} (same : (Step.statement id stmt body).untimed = other.untimed)
    : ∃ otherBody,
        other = .statement id stmt otherBody ∧ untimedAll body = untimedAll otherBody := by
  cases other with
  | action own act => simp [untimed] at same
  | statement own otherStmt otherBody =>
      simp only [untimed, Step.statement.injEq] at same
      obtain ⟨rfl, rfl, same⟩ := same
      exact ⟨otherBody, rfl, same⟩

theorem eq_cons_of_untimedAll {step : Step} {rest others : List Step}
    (same : untimedAll (step :: rest) = untimedAll others)
    : ∃ other otherRest,
        others = other :: otherRest
        ∧ step.untimed = other.untimed
        ∧ untimedAll rest = untimedAll otherRest := by
  cases others with
  | nil => simp [untimedAll] at same
  | cons other otherRest =>
      simp only [untimedAll, List.cons.injEq] at same
      exact ⟨other, otherRest, rfl, same⟩

/-- The time for which a step sleeps itself. -/
def Step.sleepTime : Step → Nat
  | .action _ (.sleep time) => time.toNat
  | _ => 0

-----------------------------------------------------------------------------------------
-- Names that steps use
-----------------------------------------------------------------------------------------

/-- The name that a side of a condition reads. -/
def ConditionSide.usedName? : ConditionSide → Option String
  | .literal _ => none
  | .variable name => some name

/-- The names whose variables an action reads or writes. A text that is given is used instead of the
variable.
-/
def Action.usedNames : Action → List String
  | .write text readFrom => if text = "" then [readFrom] else []
  | .parseString text readFrom _ saveAs => (if text = "" then [readFrom] else []) ++ [saveAs]
  | .setVariable saveAs _ => [saveAs]
  | .destructVariable readFrom _ saveAs => [readFrom, saveAs]
  | .move .. | .click .. | .sleep .. | .pressKeyboard .. => []

/-- The names whose variables a step reads or writes itself. The name for the items of a cycle is
neither: each item gets a variable of its own.
-/
def Step.usedNames : Step → List String
  | .action _ act => act.usedNames
  | .statement _ (.cycle iterable _) _ => [iterable]
  | .statement _ (.conditional condition) _ =>
    condition.left.usedName?.toList ++ condition.right.usedName?.toList

end DesktopAutomation
