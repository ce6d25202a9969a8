import DesktopAutomation.Json.Basic
import DesktopAutomation.Number.Decimal

/-!
Number literals of JSON texts. Integers that fit a word are read exactly. All other literals are
read in two steps: the leading digits that fit a word are taken as a double, which is then scaled
by one power of ten. The second rounding may move the last place.
-/

namespace DesktopAutomation
open Number

/-- A number literal taken apart. -/
structure NumberLiteral where
  negative : Bool
  whole : List Char
  fraction : Option (List Char)
  exponent : Option Int
deriving DecidableEq, Repr

/-- The magnitudes of the whole powers of ten up to `10 ^ 308`, each rounded once. -/
def powerOfTen (power : Nat) : Finite :=
  match Binary64.ofNat (tenTo power) with
  | .finite value => value
  | _ => .zero false

namespace Number

/-- The rounded product of two finite numbers, with the sign of the first. -/
def Finite.times (left right : Finite) : Binary64 :=
  let (a, b) := left.ratio
  let (c, d) := right.ratio
  .ofRatio left.negative (a * c) (b * d)

/-- The rounded quotient of two finite numbers, with the sign of the first. A rounded quotient by a
power of ten is never out of range.
-/
def Finite.over (left right : Finite) : Finite :=
  let (a, b) := left.ratio
  let (c, d) := right.ratio
  match Binary64.ofRatio left.negative (a * d) (b * c) with
  | .finite value => value
  | _ => .zero left.negative

/-- A finite number scaled by a power of ten, in as few roundings as its range allows; none if the
result is too large.
-/
def Finite.scale? (value : Finite) (exponent : Int) : Option Finite :=
  let power := exponent.natAbs
  if value.place.val = 0 then
    some value
  else if 0 ≤ exponent then
    if power ≤ 308 then
      match value.times (powerOfTen power) with
      | .finite scaled => some scaled
      | _ => none
    else
      none
  else if power ≤ 308 then
    some (value.over (powerOfTen power))
  else if power ≤ 616 then
    some ((value.over (powerOfTen 308)).over (powerOfTen (power - 308)))
  else
    some (.zero value.negative)

end Number

namespace NumberLiteral

/-- Digits of a fraction or an exponent: at least one, and nothing behind them. -/
def allDigits? (chars : List Char) : Option (List Char) :=
  if chars ≠ [] ∧ chars.all Char.isDigit then some chars else none

/-- The exponent part of a literal up to its end: a mark, an optional sign, digits. -/
def exponentPart? : List Char → Option (Option Int)
  | [] => some none
  | mark :: rest =>
    if mark = 'e' ∨ mark = 'E' then
      let (negative, digits) := takeSign rest
      (allDigits? digits).map fun digits =>
        some (if negative then -(digitsValue digits : Int) else digitsValue digits)
    else
      none

/-- Takes a literal apart. The whole part has no leading zero unless it is zero, and a point has
digits on both sides.
-/
def ofChars? (chars : List Char) : Option NumberLiteral :=
  let (negative, unsigned) :=
    match chars with
    | '-' :: rest => (true, rest)
    | _ => (false, chars)
  let (whole, rest) := spanDigits unsigned
  if whole = [] ∨ (whole.head? = some '0' ∧ whole ≠ ['0']) then
    none
  else
    match rest with
    | '.' :: behind =>
      let (fraction, tail) := spanDigits behind
      if fraction = [] then none
      else (exponentPart? tail).map (⟨negative, whole, some fraction, ·⟩)
    | _ => (exponentPart? rest).map (⟨negative, whole, none, ·⟩)

/-- The leading digits of a whole part that fit a word, and the number of digits left out. -/
def wholeDigits (digits : List Char) : Nat × Nat :=
  digits.foldl
    (fun (value, skipped) c =>
      let next := value * 10 + (c.toNat - '0'.toNat)
      if skipped = 0 ∧ next < wordCount then (next, 0) else (value, skipped + 1))
    (0, 0)

/-- Fraction digits appended to a word while they fit, with the number of digits appended. -/
def fractionDigits (value : Nat) (digits : List Char) : Nat × Nat :=
  let (value, taken, _) := digits.foldl
    (fun (value, taken, full) c =>
      let next := value * 10 + (c.toNat - '0'.toNat)
      if !full && next < wordCount then (next, taken + 1, false) else (value, taken, true))
    (value, 0, false)
  (value, taken)

/-- The double that a literal names; none if it is too large. -/
def float? (literal : NumberLiteral) : Option Finite :=
  let (whole, skipped) := wholeDigits literal.whole
  let (significand, taken) := fractionDigits whole (literal.fraction.getD [])
  match Binary64.ofRatio literal.negative significand 1 with
  | .finite value => value.scale? (skipped - taken + literal.exponent.getD 0)
  | _ => none

/-- The number that a literal names: an integer if it is written as one and in range. A negative
zero is a double.
-/
def number? (literal : NumberLiteral) : Option JsonNumber :=
  let value := digitsValue literal.whole
  if literal.fraction = none ∧ literal.exponent = none ∧ !literal.negative ∧ value < wordCount then
    some (.natural (UInt64.ofNat value))
  else if h : literal.fraction = none ∧ literal.exponent = none ∧ literal.negative ∧ 0 < value
      ∧ value ≤ firstBit then
    some (.negative ⟨value - 1, by omega⟩)
  else
    literal.float?.map .float

end NumberLiteral

end DesktopAutomation
