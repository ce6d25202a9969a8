import DesktopAutomation.Number.Power

/-!
Reading natural numbers below 2^64 in a radix. A leading plus sign is allowed; the first fault from
the left is reported.
-/

namespace DesktopAutomation.Number

/-- Why a text names no natural number below 2^64. -/
inductive NaturalError
  | empty
  | badDigit
  | tooLarge
deriving DecidableEq, Repr

/-- The wording of a reading error. -/
def NaturalError.message : NaturalError → String
  | .empty => "cannot parse integer from empty string"
  | .badDigit => "invalid digit found in string"
  | .tooLarge => "number too large to fit in target type"

/-- The value of a digit in a radix of at most 36; letters count on from ten in either case. -/
def digit? (radix : Nat) (c : Char) : Option Nat :=
  let value? : Option Nat :=
    if '0' ≤ c ∧ c ≤ '9' then some (c.toNat - '0'.toNat)
    else if 'a' ≤ c ∧ c ≤ 'z' then some (c.toNat - 'a'.toNat + 10)
    else if 'A' ≤ c ∧ c ≤ 'Z' then some (c.toNat - 'A'.toNat + 10)
    else none
  value?.filter (· < radix)

/-- Reads digits on behind the value `sofar`. -/
def readDigits (radix : Nat) (sofar : Nat) : List Char → Except NaturalError Nat
  | [] => .ok sofar
  | c :: rest =>
    match digit? radix c with
    | none => .error .badDigit
    | some d =>
      if sofar * radix + d < wordCount then readDigits radix (sofar * radix + d) rest
      else .error .tooLarge

/-- Reads a natural number below 2^64, with or without a plus sign. -/
def readNatural (radix : Nat) (chars : List Char) : Except NaturalError Nat :=
  match chars with
  | [] => .error .empty
  | ['+'] => .error .badDigit
  | '+' :: digits => readDigits radix 0 digits
  | digits => readDigits radix 0 digits

/-- Reads a decimal text as a word. -/
def readWord (text : String) : Except NaturalError UInt64 :=
  (readNatural 10 text.toList).map UInt64.ofNat

end DesktopAutomation.Number
