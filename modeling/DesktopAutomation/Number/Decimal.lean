import DesktopAutomation.Number.Binary64

/-!
Decimal literals of plain texts: an optional sign, digits with an optional point anywhere among
them, and an optional exponent. They read as the nearest double.
-/

namespace DesktopAutomation.Number

/-- A run of decimal digits and what follows it. -/
def spanDigits (chars : List Char) : List Char × List Char :=
  (chars.takeWhile Char.isDigit, chars.dropWhile Char.isDigit)

/-- The number that a run of decimal digits names. -/
def digitsValue (digits : List Char) : Nat :=
  digits.foldl (fun value c => value * 10 + (c.toNat - '0'.toNat)) 0

/-- An optional sign and what follows it. -/
def takeSign : List Char → Bool × List Char
  | '-' :: rest => (true, rest)
  | '+' :: rest => (false, rest)
  | rest => (false, rest)

/-- An exponent part, which may be missing, up to the end of the text. -/
def readExponent : List Char → Option Int
  | [] => some 0
  | mark :: rest =>
    if mark = 'e' ∨ mark = 'E' then
      let (negative, digits) := takeSign rest
      if digits ≠ [] ∧ digits.all Char.isDigit then
        some (if negative then -(digitsValue digits : Int) else digitsValue digits)
      else
        none
    else
      none

/-- The double that a decimal literal names. At least one digit stands before or behind the point.
-/
def readDecimal (chars : List Char) : Option Binary64 :=
  let (negative, unsigned) := takeSign chars
  let (whole, rest) := spanDigits unsigned
  let (fraction, tail) :=
    match rest with
    | '.' :: behind => spanDigits behind
    | _ => ([], rest)
  if whole = [] ∧ fraction = [] then
    none
  else
    (readExponent tail).map fun exponent =>
      .ofDecimal negative (digitsValue (whole ++ fraction)) (exponent - fraction.length)

end DesktopAutomation.Number
