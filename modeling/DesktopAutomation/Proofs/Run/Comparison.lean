import DesktopAutomation.Proofs.Variable.NumberReading
import DesktopAutomation.Run.Basic

/-! Which texts a conditional may order. An ordering compares number readings, so it fails for a
text that reads as no number, and its body is left out. A text is told to read as a number if it is
a numeral; this is so but for digits of more than 64 bits and for a plus sign behind a mark.
-/

namespace DesktopAutomation.Run
open Deed Number VariableValue

/-- No ordering holds of a value that reads as no number. -/
theorem holds_of_nan {operator : Operator} (ordering : operator.isOrdering = true)
    {left right : VariableValue} (noNumber : left.number = .nan ∨ right.number = .nan)
    : operator.holds left right = false := by
  have noPosition : left.number.position? = none ∨ right.number.position? = none :=
    noNumber.imp (fun isNan => by rw [isNan]; rfl) (fun isNan => by rw [isNan]; rfl)
  cases operator with
  | equal | notEqual => cases ordering
  | greaterThan | lesserThan | greaterOrEqualThan | lesserOrEqualThan =>
      rcases noPosition with none | none <;>
        simp [Operator.holds, Binary64.less, Binary64.atMost, none]

/-- A number is at most itself. -/
theorem atMost_refl {value : Binary64} (isNumber : value ≠ .nan) : value.atMost value = true := by
  cases value <;> simp [Binary64.atMost, Binary64.position?] at isNumber ⊢

/-- A side of a condition is a text. -/
def HasSide (text : String) (id : StepId) (condition : Condition) (environment : Environment)
    : Prop :=
  readSide id condition.left environment = .ok (.text text)
  ∨ readSide id condition.right environment = .ok (.text text)

/-- A conditional that orders a text never runs its body: it leaves the world as it is, and stops
the run only if a side cannot be read.
-/
def NeverOrdered (text : String) : Prop :=
  ∀ {σ : Type} (backend : InputBackend σ) (controls : Controls) (id : StepId)
      (condition : Condition) (body : List Step) (world : World σ),
    condition.operator.isOrdering = true
    → HasSide text id condition world.environment
    → ∃ stopped?,
        runStep backend controls (.statement id (.conditional condition) body) world
          = (stopped?, world)
        ∧ ∀ error,
            stopped? = some error ↔ readCondition id condition world.environment = .error error

/-- A condition that orders a text without a number reading does not hold, whatever is read. -/
theorem readCondition_ne_true {text : String} (noNumber : (VariableValue.text text).number = .nan)
    {id : StepId} {condition : Condition} {environment : Environment}
    (ordering : condition.operator.isOrdering = true)
    (sided : HasSide text id condition environment)
    : readCondition id condition environment ≠ .ok true := by
  intro holds
  cases readsLeft : readSide id condition.left environment with
  | error => simp [readCondition, readsLeft, bind, Except.bind] at holds
  | ok left =>
      cases readsRight : readSide id condition.right environment with
      | error => simp [readCondition, readsLeft, readsRight, bind, Except.bind] at holds
      | ok right =>
          have compared : condition.operator.holds left right = true := by
            simpa [readCondition, readsLeft, readsRight, bind, Except.bind, pure, Except.pure]
              using holds
          have noNumbers : left.number = .nan ∨ right.number = .nan := by
            refine sided.imp (fun isText => ?_) (fun isText => ?_)
            · obtain rfl := Except.ok.inj (readsLeft.symm.trans isText)
              exact noNumber
            · obtain rfl := Except.ok.inj (readsRight.symm.trans isText)
              exact noNumber
          rw [holds_of_nan ordering noNumbers] at compared
          cases compared

/-- Exactly the texts that read as no number are never ordered; a number is at most itself. -/
theorem neverOrdered_iff (text : String)
    : NeverOrdered text ↔ (VariableValue.text text).number = .nan := by
  constructor
  · intro never
    apply Decidable.byContradiction
    intro isNumber
    let itself : Condition := ⟨.literal text, .greaterOrEqualThan, .literal text⟩
    obtain ⟨stopped?, ran, -⟩ :=
      never ⟨fun _ device => (none, device)⟩ (.steady 0) ⟨0⟩ itself [.action ⟨0⟩ (.sleep 0)]
        (.initial () .empty) rfl (.inl rfl)
    have holds : readCondition ⟨0⟩ itself .empty = .ok true :=
      congrArg Except.ok (atMost_refl isNumber)
    have history := congrArg (fun outcome => outcome.2.history) ran
    simp only [runStep, reading, World.initial, holds] at history
    cases history
  · intro noNumber σ backend controls id condition body world ordering sided
    have notTrue := readCondition_ne_true noNumber ordering sided
    rw [runStep, reading]
    cases reads : readCondition id condition world.environment with
    | error error => exact ⟨some error, rfl, by simp⟩
    | ok holds =>
        have fails : holds = false := by
          cases holds
          · rfl
          · exact absurd reads notTrue
        subst fails
        exact ⟨none, rfl, by simp⟩

/-- What is told of a text: it reads as a number just if it is a numeral, and unless it is one, no
ordering of it has its body run.
-/
structure ReadsAsTold (text : String) : Prop where
  number
    : (VariableValue.text text).number ≠ .nan
      ↔ Numeral (Text.trimEnds Text.isBlank text.toList)
  ordering : ¬Numeral (Text.trimEnds Text.isBlank text.toList) → NeverOrdered text

/-- A text reads as it is told unless it has digits of more than 64 bits behind a mark, which read
as no number, or a plus sign there, behind which digits still read as one.
-/
theorem readsAsTold_iff (text : String)
    : let chars := Text.trimEnds Text.isBlank text.toList
      (ReadsAsTold text ↔ ¬Oversized chars ∧ ¬PlusBehindMark chars)
      ∧ ((VariableValue.text text).number ≠ .nan
        ↔ Numeral chars ∧ ¬Oversized chars ∨ PlusBehindMark chars)
      ∧ (NeverOrdered text ↔ (VariableValue.text text).number = .nan) := by
  intro chars
  have reads : (VariableValue.text text).number ≠ .nan
      ↔ Numeral chars ∧ ¬Oversized chars ∨ PlusBehindMark chars :=
    trimmedNumber_ne_nan_iff chars
  have agrees : ((VariableValue.text text).number ≠ .nan ↔ Numeral chars)
      ↔ ¬Oversized chars ∧ ¬PlusBehindMark chars :=
    trimmedNumber_agrees_iff chars
  refine ⟨?_, reads, neverOrdered_iff text⟩
  rw [← agrees]
  constructor
  · exact ReadsAsTold.number
  · intro number
    refine ⟨number, fun noNumeral => ?_⟩
    rw [neverOrdered_iff]
    exact Decidable.not_not.mp (mt number.mp noNumeral)

/-- A plus sign behind the mark makes a number of a text that is no numeral. -/
theorem not_readsAsTold_plus : ¬ReadsAsTold "0x+1" := by
  intro told
  have trims : Text.trimEnds Text.isBlank "0x+1".toList = "0x+1".toList := by decide +kernel
  have plus : PlusBehindMark "0x+1".toList :=
    ⟨.hexadecimal, ['1'], .intro (by decide),
      ⟨by decide, List.forall_mem_singleton.mpr (by decide)⟩, by decide⟩
  have isNumber : (VariableValue.text "0x+1").number ≠ .nan := by
    rw [number, trims, trimmedNumber_ne_nan_iff]
    exact .inr plus
  have numeral := told.number.mp isNumber
  rw [trims] at numeral
  exact plus.not_numeral numeral

end DesktopAutomation.Run
