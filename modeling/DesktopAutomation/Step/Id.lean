import DesktopAutomation.Json.Basic
import DesktopAutomation.Number.Natural

/-!
Step ids. An id names one step of an automation, and is also the mark by which variables tell the
step that owns them.
-/

namespace DesktopAutomation

/-- The largest integer that a stored document may hold: above it, doubles skip integers. -/
def largestSafe : UInt64 := 0x1fffffffffffff

/-- The id of a step. -/
structure StepId where
  value : UInt64
deriving DecidableEq, Repr, Hashable

namespace StepId

/-- The id behind this one. Behind the last id comes the last id again. -/
def next (id : StepId) : StepId :=
  if id.value = 0xffffffffffffffff then id else ⟨id.value + 1⟩

/-- A stored document may hold the id. -/
def isSafe (id : StepId) : Bool := id.value ≤ largestSafe

/-- The greater of two ids. -/
def max (a b : StepId) : StepId := if a.value < b.value then b else a

/-- The decimal text of an id. -/
def text (id : StepId) : String := toString id.value.toNat

/-- Reads the decimal text of an id. -/
def ofText (text : String) : Except Number.NaturalError StepId :=
  (Number.readWord text).map StepId.mk

/-- The JSON form of an id. -/
def toJson (id : StepId) : Json := .number (.natural id.value)

/-- Reads the JSON form of an id. -/
def ofJson? (json : Json) : Option StepId := json.word?.map StepId.mk

theorem ofJson?_toJson (id : StepId) : ofJson? id.toJson = some id := rfl

/-- The next id is one greater, but for the last id. -/
theorem toNat_next (id : StepId)
    : id.next.value.toNat = min (id.value.toNat + 1) (Number.wordCount - 1) := by
  have bound : id.value.toNat < Number.wordCount := id.value.toNat_lt
  simp only [Number.wordCount] at *
  rw [next]
  split
  · next last =>
    have : id.value.toNat = 0xffffffffffffffff := by rw [last]; rfl
    omega
  · next notLast =>
    have : id.value.toNat ≠ 0xffffffffffffffff := fun same =>
      notLast (UInt64.toNat_inj.1 (by rw [same]; rfl))
    show (id.value + 1).toNat = _
    rw [UInt64.toNat_add]
    have : (1 : UInt64).toNat = 1 := rfl
    omega

end StepId

end DesktopAutomation
