import DesktopAutomation.Number.Binary64

/-!
The shortest text of a finite number: the fewest digits that still read back as the number, and the
nearest to it of those. The digits are found on decimal grids, coarsest first.
-/

namespace DesktopAutomation.Number

/-- The greatest `k` with `10 ^ k ≤ num / den`, for a positive ratio. -/
def decimalExponent (num den : Nat) : Int :=
  if den ≤ num then
    ((Nat.toDigits 10 (num / den)).length : Int) - 1
  else
    let size := (Nat.toDigits 10 (den / num)).length
    if den ≤ num * tenTo (size - 1) then 1 - (size : Int) else -(size : Int)

/-- The ratios that round to a number, around its own ratio. An end belongs to them if `closed`. -/
structure RoundingRange where
  low : Nat
  high : Nat
  den : Nat
  closed : Bool

/-- The ratios that round to a positive finite number: half a unit to both sides, and a quarter
below a power of two, where the unit halves.
-/
def Finite.roundingRange (value : Finite) : RoundingRange :=
  let (mantissa, exponent) := value.scaled
  let narrow := mantissa = octaveSize ∧ -1074 < exponent
  let unit := twoTo exponent.toNat
  { low := (4 * mantissa - if narrow then 1 else 2) * unit
    high := (4 * mantissa + 2) * unit
    den := 4 * twoTo (-exponent).toNat
    closed := mantissa % 2 = 0 }

/-- `digits · 10 ^ exponent` rounds to the number. -/
def RoundingRange.holds (range : RoundingRange) (digits : Nat) (exponent : Int) : Bool :=
  let value := digits * tenTo exponent.toNat * range.den
  let low := range.low * tenTo (-exponent).toNat
  let high := range.high * tenTo (-exponent).toNat
  if range.closed then low ≤ value && value ≤ high else low < value && value < high

/-- The decimals on one grid next to a ratio, the nearer one first. -/
def gridNeighbours (num den : Nat) (exponent : Int) : List Nat :=
  let num := num * tenTo (-exponent).toNat
  let den := den * tenTo exponent.toNat
  let below := num / den
  if nearestEven num den = below then [below, below + 1] else [below + 1, below]

/-- The digits and the exponent of the shortest decimal that reads back as a positive number. -/
def Finite.shortest (value : Finite) : Nat × Int :=
  let (num, den) := value.ratio
  let range := value.roundingRange
  let top := decimalExponent num den
  let found := (List.range 18).findSome? fun (more : Nat) =>
    let exponent := top + 1 - more
    ((gridNeighbours num den exponent).find? (range.holds · exponent)).map (·, exponent)
  found.getD (nearestEven num den, 0)

/-- Decimals are written without an exponent from `10 ^ -5` up to below `10 ^ 16`. -/
def isPositional (leading : Int) : Bool := -5 ≤ leading && leading ≤ 15

/-- An exponent has a sign, and no more digits than it needs. -/
def exponentText (exponent : Int) : List Char :=
  'e' :: (if exponent < 0 then '-' else '+') :: Nat.toDigits 10 exponent.natAbs

/-- The text of `digits · 10 ^ exponent`. Positional notation always has a point. -/
def decimalText (digits : Nat) (exponent : Int) : List Char :=
  let shown := Nat.toDigits 10 digits
  let leading := exponent + shown.length - 1
  if isPositional leading then
    if 0 ≤ exponent then
      shown ++ List.replicate exponent.toNat '0' ++ ['.', '0']
    else if 0 ≤ leading then
      shown.take (leading.toNat + 1) ++ '.' :: shown.drop (leading.toNat + 1)
    else
      '0' :: '.' :: List.replicate ((-leading).toNat - 1) '0' ++ shown
  else
    match shown with
    | [] => []
    | [only] => only :: exponentText leading
    | first :: rest => first :: '.' :: rest ++ exponentText leading

/-- The text of a finite number. -/
def Finite.text (value : Finite) : String :=
  let magnitude :=
    if value.place.val = 0 then ['0', '.', '0']
    else
      let (digits, exponent) := value.shortest
      decimalText digits exponent
  String.ofList (if value.negative then '-' :: magnitude else magnitude)

end DesktopAutomation.Number
