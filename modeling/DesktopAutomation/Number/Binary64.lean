import DesktopAutomation.Number.Power

/-!
Double-precision numbers with exact arithmetic. A finite number is told by its sign and its place
among the magnitudes, counted up from zero; the place is also the bit pattern below the sign. A
positive ratio is rounded to the nearest magnitude, ties to the even one.
-/

namespace DesktopAutomation.Number

/-- The number of magnitudes in an octave: mantissas have 52 bits behind the first. -/
def octaveSize : Nat := 0x10000000000000

/-- The number of finite magnitudes; the place of infinity. -/
def magnitudes : Nat := 0x7ff0000000000000

/-- A finite double-precision number. -/
structure Finite where
  negative : Bool
  place : Fin magnitudes
deriving DecidableEq, Repr

/-- A double-precision number. All values that are no number are one. -/
inductive Binary64
  | nan
  | infinite (negative : Bool)
  | finite (value : Finite)
deriving DecidableEq, Repr

/-- Zero with a sign. -/
def Finite.zero (negative : Bool) : Finite := ⟨negative, ⟨0, by decide⟩⟩

/-- The mantissa and the power of two whose product is the magnitude. Places below 2^52 are the
subnormal numbers.
-/
def Finite.scaled (value : Finite) : Nat × Int :=
  let octave : Nat := value.place.val / octaveSize
  let rest : Nat := value.place.val % octaveSize
  if octave = 0 then (rest, -1074) else (octaveSize + rest, (octave : Int) - 1075)

/-- The magnitude as a ratio. -/
def Finite.ratio (value : Finite) : Nat × Nat :=
  let (mantissa, exponent) := value.scaled
  (mantissa * twoTo exponent.toNat, twoTo (-exponent).toNat)

/-- The nearest whole number to a ratio, the even one of two. -/
def nearestEven (num den : Nat) : Nat :=
  let quotient := num / den
  let twice := 2 * (num % den)
  if twice > den ∨ (twice = den ∧ quotient % 2 = 1) then quotient + 1 else quotient

/-- The power of two of the last mantissa bit that a ratio is rounded at: 53 bits of it are kept,
but no bit below 2^-1074.
-/
def lastBit (num den : Nat) : Int :=
  if num = 0 then -1074 else
  let guess : Int := max (-1074) ((Nat.log2 num : Int) - Nat.log2 den - 53)
  if num * twoTo (-guess).toNat < 2 * octaveSize * (den * twoTo guess.toNat) then guess
  else guess + 1

/-- The place of the magnitude nearest to a ratio; it may lie at infinity or beyond. -/
def nearestPlace (num den : Nat) : Nat :=
  let bit := lastBit num den
  (bit + 1074).toNat * octaveSize
    + nearestEven (num * twoTo (-bit).toNat) (den * twoTo bit.toNat)

/-- The double nearest to a ratio with a sign, infinite from half a unit above the largest. -/
def Binary64.ofRatio (negative : Bool) (num den : Nat) : Binary64 :=
  if h : nearestPlace num den < magnitudes then
    .finite ⟨negative, ⟨nearestPlace num den, h⟩⟩
  else
    .infinite negative

/-- The double nearest to a natural number. -/
def Binary64.ofNat (n : Nat) : Binary64 := .ofRatio false n 1

/-- The double nearest to `digits · 10 ^ exponent`. Far beyond the range of the format the result is
certain and no power is computed.
-/
def Binary64.ofDecimal (negative : Bool) (digits : Nat) (exponent : Int) : Binary64 :=
  let size : Int := (Nat.toDigits 10 digits).length
  if digits = 0 ∨ size + exponent < -330 then
    .finite (.zero negative)
  else if size + exponent > 330 then
    .infinite negative
  else
    .ofRatio negative (digits * tenTo exponent.toNat) (tenTo (-exponent).toNat)

/-- The bit pattern. Values that are no number have none here. -/
def Binary64.bits? : Binary64 → Option Nat
  | .nan => none
  | .infinite negative => some (negative.toNat * firstBit + magnitudes)
  | .finite value => some (value.negative.toNat * firstBit + value.place)

/-- The position on the line of numbers. Both zeros lie at zero. -/
def Binary64.position? : Binary64 → Option Int
  | .nan => none
  | .infinite negative => some (if negative then -magnitudes else magnitudes)
  | .finite value => some (if value.negative then -value.place else value.place)

/-- The strict order of numbers, which never holds of a value that is no number. -/
def Binary64.less (left right : Binary64) : Bool :=
  match left.position?, right.position? with
  | some a, some b => a < b
  | _, _ => false

/-- The order of numbers, which never holds of a value that is no number. -/
def Binary64.atMost (left right : Binary64) : Bool :=
  match left.position?, right.position? with
  | some a, some b => a ≤ b
  | _, _ => false

/-- Two finite numbers are the same number; the two zeros are. -/
def Finite.same (left right : Finite) : Bool :=
  (Binary64.finite left).position? == (Binary64.finite right).position?

end DesktopAutomation.Number
