import DesktopAutomation.Number.Decimal
import DesktopAutomation.Text.Blank
import DesktopAutomation.Timestamp.Basic

/-!
Reading timestamps. The order of the parts and their separators is fixed; white space may stand
before numbers and separators, numbers may be short, and the zone is the zero meridian or an offset
in hours and minutes.
-/

namespace DesktopAutomation.Timestamp
open Number Text

/-- The characters behind leading white space. -/
def skipBlank (chars : List Char) : List Char := chars.dropWhile isBlank

/-- A number of at least one and at most `width` digits, and what follows it. -/
def readNumber? (width : Nat) (chars : List Char) : Option (Nat × List Char) :=
  let digits := (chars.take width).takeWhile Char.isDigit
  if digits = [] then none else some (digitsValue digits, chars.drop digits.length)

/-- A two-digit part, with white space allowed before it. -/
def readPart? (chars : List Char) : Option (Nat × List Char) :=
  readNumber? 2 (skipBlank chars)

/-- A separator, with white space allowed before it. -/
def readSeparator? (mark : Char) (chars : List Char) : Option (List Char) :=
  match skipBlank chars with
  | c :: rest => if c = mark then some rest else none
  | [] => none

/-- A year: up to four digits, or a sign and any number of digits. -/
def readYear? (chars : List Char) : Option (Int × List Char) :=
  match skipBlank chars with
  | '-' :: rest => (readNumber? rest.length rest).map fun (year, rest) => (-(year : Int), rest)
  | '+' :: rest => (readNumber? rest.length rest).map fun (year, rest) => ((year : Int), rest)
  | rest => (readNumber? 4 rest).map fun (year, rest) => ((year : Int), rest)

/-- An optional fraction of a second, of which nine digits count. -/
def readFraction? : List Char → Option (Nat × List Char)
  | '.' :: rest =>
    let digits := rest.takeWhile Char.isDigit
    if digits = [] then none
    else
      let kept := digits.take 9
      some (digitsValue kept * tenTo (9 - kept.length), rest.drop digits.length)
  | rest => some (0, rest)

/-- Exactly two digits. -/
def readPair? : List Char → Option (Nat × List Char)
  | a :: b :: rest =>
    if a.isDigit ∧ b.isDigit then some (digitsValue [a, b], rest) else none
  | _ => none

/-- An offset behind its sign, in minutes: two digits, colons or white space, two digits. -/
def readOffset? (chars : List Char) : Option (Nat × List Char) := do
  let (hours, rest) ← readPair? chars
  let (minutes, rest) ← readPair? (rest.dropWhile fun c => c == ':' || isBlank c)
  if minutes < 60 then some (hours * 60 + minutes, rest) else none

/-- The zone, as minutes ahead of the zero meridian. -/
def readZone? (chars : List Char) : Option (Int × List Char) :=
  match skipBlank chars with
  | [] => none
  | sign :: rest =>
    if ((sign :: rest).take 3).map Char.toUpper = ['U', 'T', 'C'] then some (0, rest.drop 2)
    else if sign = 'Z' ∨ sign = 'z' then some (0, rest)
    else if sign = '+' then (readOffset? rest).map fun (m, rest) => ((m : Int), rest)
    else if sign = '-' ∨ sign = '\u2212' then
      (readOffset? rest).map fun (m, rest) => (-(m : Int), rest)
    else none

/-- The mark between date and time. -/
def readTimeMark? : List Char → Option (List Char)
  | c :: rest => if c = 'T' ∨ c = 't' ∨ c = ' ' then some rest else none
  | [] => none

/-- The timestamp that a text names. -/
def ofText? (text : String) : Option Timestamp := do
  let (year, rest) ← readYear? text.toList
  let (month, rest) ← readPart? (← readSeparator? '-' rest)
  let (day, rest) ← readPart? (← readSeparator? '-' rest)
  let rest ← readTimeMark? rest
  let (hour, rest) ← readPart? rest
  let (minute, rest) ← readPart? (← readSeparator? ':' rest)
  let (second, rest) ← readPart? (← readSeparator? ':' rest)
  let (nano, rest) ← readFraction? rest
  let (offset, rest) ← readZone? rest
  let shown : CivilTime := ⟨year, month, day, hour, minute, second, nano⟩
  if shown.Valid ∧ offset.natAbs < 1440 ∧ skipBlank rest = [] then
    if valid : (shown.behind offset).Valid then some ⟨shown.behind offset, valid⟩ else none
  else
    none

end DesktopAutomation.Timestamp
