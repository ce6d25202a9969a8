import DesktopAutomation.Number.Decimal
import DesktopAutomation.Number.Natural
import DesktopAutomation.Timestamp.Basic
import DesktopAutomation.Toml.Basic

/-!
TOML strings, numbers and dates. A reader takes the characters of a value from the front of a list
and leaves what follows.
-/

namespace DesktopAutomation.Toml
open Number

/-- Takes a value from the front of a text. -/
abbrev Reader (α : Type) := List Char → Option (α × List Char)

-----------------------------------------------------------------------------------------
-- Blank text
-----------------------------------------------------------------------------------------

/-- A blank within a line. -/
def isSpace (c : Char) : Bool := c == ' ' || c == '\t'

/-- What follows the blanks of a line. -/
def skipSpaces (chars : List Char) : List Char := chars.dropWhile isSpace

/-- A character that comments and strings may hold: no control character but the tab. -/
def isPlain (c : Char) : Bool := c == '\t' || (0x20 ≤ c.toNat && c.toNat != 0x7f)

/-- What follows a line break. -/
def readLineBreak? : List Char → Option (List Char)
  | '\n' :: rest => some rest
  | '\r' :: '\n' :: rest => some rest
  | _ => none

/-- What follows the end of a line: blanks, a comment and a line break or the end of the text. -/
def readLineEnd? (chars : List Char) : Option (List Char) :=
  let behind :=
    match skipSpaces chars with
    | '#' :: comment => comment.dropWhile isPlain
    | rest => rest
  if behind = [] then some [] else readLineBreak? behind

/-- What follows blanks, comments and line breaks. `comment` tells that a comment has begun. -/
def skipLayout? (comment : Bool) : List Char → Option (List Char)
  | [] => some []
  | '\r' :: '\n' :: rest => skipLayout? false rest
  | c :: rest =>
    if c = '\n' then skipLayout? false rest
    else if comment then (if isPlain c then skipLayout? true rest else none)
    else if isSpace c then skipLayout? false rest
    else if c = '#' then skipLayout? true rest
    else some (c :: rest)

-----------------------------------------------------------------------------------------
-- Strings
-----------------------------------------------------------------------------------------

/-- The character with a code point in hexadecimal digits. -/
def hexChar? (digits : List Char) : Option Char := do
  let value ← (readDigits 16 0 digits).toOption
  if value.isValidChar then some (Char.ofNat value) else none

/-- The character that a letter behind a backslash stands for. -/
def escape? : Char → Option Char
  | 'b' => some '\x08'
  | 't' => some '\t'
  | 'n' => some '\n'
  | 'f' => some '\x0c'
  | 'r' => some '\r'
  | '"' => some '"'
  | '\\' => some '\\'
  | _ => none

/-- Puts a character before the characters of a string. -/
def before (c : Char) (read : Option (List Char × List Char)) : Option (List Char × List Char) :=
  read.map fun (chars, rest) => (c :: chars, rest)

/-- The characters of a quoted string, behind its first quote. -/
def readQuoted? : Reader (List Char)
  | [] => none
  | '"' :: rest => some ([], rest)
  | '\\' :: 'U' :: a :: b :: c :: d :: e :: f :: g :: h :: rest => do
    before (← hexChar? [a, b, c, d, e, f, g, h]) (readQuoted? rest)
  | '\\' :: 'u' :: a :: b :: c :: d :: rest => do
    before (← hexChar? [a, b, c, d]) (readQuoted? rest)
  | '\\' :: c :: rest => do before (← escape? c) (readQuoted? rest)
  | c :: rest => if isPlain c then before c (readQuoted? rest) else none

/-- The characters of a quoted string of several lines, behind its first quotes. Up to two quotes
may stand before the last three. `skipping` tells that blanks and line breaks do not count.
-/
def readQuotedLines? (skipping : Bool) : Reader (List Char)
  | [] => none
  | '"' :: '"' :: '"' :: '"' :: '"' :: rest => some (['"', '"'], rest)
  | '"' :: '"' :: '"' :: '"' :: rest => some (['"'], rest)
  | '"' :: '"' :: '"' :: rest => some ([], rest)
  | '\\' :: 'U' :: a :: b :: c :: d :: e :: f :: g :: h :: rest => do
    before (← hexChar? [a, b, c, d, e, f, g, h]) (readQuotedLines? false rest)
  | '\\' :: 'u' :: a :: b :: c :: d :: rest => do
    before (← hexChar? [a, b, c, d]) (readQuotedLines? false rest)
  | '\r' :: '\n' :: rest =>
    if skipping then readQuotedLines? true rest else before '\n' (readQuotedLines? false rest)
  | '\\' :: c :: rest =>
    if (readLineBreak? (skipSpaces (c :: rest))).isSome then readQuotedLines? true (c :: rest)
    else do before (← escape? c) (readQuotedLines? false rest)
  | c :: rest =>
    if c = '\n' ∨ isSpace c then
      if skipping then readQuotedLines? true rest else before c (readQuotedLines? false rest)
    else if isPlain c then before c (readQuotedLines? false rest)
    else none

/-- The characters of a literal string, behind its first apostrophe. -/
def readLiteral? : Reader (List Char)
  | [] => none
  | '\'' :: rest => some ([], rest)
  | c :: rest => if isPlain c then before c (readLiteral? rest) else none

/-- The characters of a literal string of several lines, behind its first apostrophes. -/
def readLiteralLines? : Reader (List Char)
  | [] => none
  | '\'' :: '\'' :: '\'' :: '\'' :: '\'' :: rest => some (['\'', '\''], rest)
  | '\'' :: '\'' :: '\'' :: '\'' :: rest => some (['\''], rest)
  | '\'' :: '\'' :: '\'' :: rest => some ([], rest)
  | '\r' :: '\n' :: rest => before '\n' (readLiteralLines? rest)
  | c :: rest => if c = '\n' ∨ isPlain c then before c (readLiteralLines? rest) else none

/-- The text without a line break at its start. -/
def dropLineBreak (chars : List Char) : List Char := (readLineBreak? chars).getD chars

/-- A string in any of its four forms. -/
def readString? (chars : List Char) : Option (String × List Char) :=
  let read :=
    match chars with
    | '"' :: '"' :: '"' :: rest => readQuotedLines? false (dropLineBreak rest)
    | '\'' :: '\'' :: '\'' :: rest => readLiteralLines? (dropLineBreak rest)
    | '"' :: rest => readQuoted? rest
    | '\'' :: rest => readLiteral? rest
    | _ => none
  read.map fun (value, rest) => (String.ofList value, rest)

-----------------------------------------------------------------------------------------
-- Numbers
-----------------------------------------------------------------------------------------

/-- Further digits, which single underscores may separate. -/
def moreDigits (isDigit : Char → Bool) : List Char → List Char × List Char
  | '_' :: c :: rest =>
    if isDigit c then
      let (digits, behind) := moreDigits isDigit rest
      (c :: digits, behind)
    else
      ([], '_' :: c :: rest)
  | c :: rest =>
    if isDigit c then
      let (digits, behind) := moreDigits isDigit rest
      (c :: digits, behind)
    else
      ([], c :: rest)
  | [] => ([], [])

/-- One digit or more. -/
def readDigitRun? (isDigit : Char → Bool) : Reader (List Char)
  | c :: rest =>
    if isDigit c then
      let (digits, behind) := moreDigits isDigit rest
      some (c :: digits, behind)
    else
      none
  | [] => none

/-- The sign and the digits of a decimal whole number. A zero comes first only if it stands alone.
-/
def readWhole? (chars : List Char) : Option ((Bool × List Char) × List Char) :=
  let (negative, unsigned) := takeSign chars
  match unsigned with
  | '0' :: rest => some ((negative, ['0']), rest)
  | rest => (readDigitRun? Char.isDigit rest).map fun (digits, behind) => ((negative, digits), behind)

/-- An integer that is too large for 64 bits with a sign is none. -/
def signed? (value : Int) : Option Toml :=
  if -Number.firstBit ≤ value ∧ value < Number.firstBit then some (.integer value) else none

/-- An integer in digits of a radix. -/
def readRadix? (radix : Nat) : Reader Toml := fun chars => do
  let (digits, rest) ← readDigitRun? (fun c => (digit? radix c).isSome) chars
  let value ← (readDigits radix 0 digits).toOption
  return (← signed? value, rest)

/-- An integer, in decimal or behind the mark of another radix. -/
def readInteger? : Reader Toml
  | '0' :: 'x' :: rest => readRadix? 16 rest
  | '0' :: 'o' :: rest => readRadix? 8 rest
  | '0' :: 'b' :: rest => readRadix? 2 rest
  | chars => do
    let ((negative, digits), rest) ← readWhole? chars
    let value : Int := digitsValue digits
    return (← signed? (if negative then -value else value), rest)

/-- The exponent part of a float: a sign and digits. -/
def readExponent? : Reader Int
  | mark :: rest =>
    if mark = 'e' ∨ mark = 'E' then do
      let (negative, unsigned) := takeSign rest
      let (digits, behind) ← readDigitRun? Char.isDigit unsigned
      let value : Int := digitsValue digits
      return (if negative then -value else value, behind)
    else
      none
  | [] => none

/-- A float with digits. One above the range of doubles is none, one below it is kept. -/
def readFloat? (chars : List Char) : Option (Toml × List Char) := do
  let ((negative, whole), rest) ← readWhole? chars
  let (fraction, behind) ←
    match rest with
    | '.' :: digits => readDigitRun? Char.isDigit digits
    | _ => some ([], rest)
  let (exponent, tail) ←
    match readExponent? behind with
    | some read => some read
    | none => if fraction = [] then none else some (0, behind)
  match Binary64.ofDecimal negative (digitsValue (whole ++ fraction)) (exponent - fraction.length) with
  | .infinite false => none
  | _ => return (.float, tail)

/-- A float without digits. -/
def readSpecialFloat? (chars : List Char) : Option (Toml × List Char) :=
  match (takeSign chars).2 with
  | 'i' :: 'n' :: 'f' :: rest | 'n' :: 'a' :: 'n' :: rest => some (.float, rest)
  | _ => none

-----------------------------------------------------------------------------------------
-- Dates
-----------------------------------------------------------------------------------------

/-- A number of exactly `width` digits within bounds. -/
def readFixed? (width low high : Nat) : Reader Nat := fun chars =>
  let digits := chars.take width
  let value := digitsValue digits
  if digits.length = width ∧ digits.all Char.isDigit ∧ low ≤ value ∧ value ≤ high then
    some (value, chars.drop width)
  else
    none

/-- What follows a mark. -/
def readMark? (mark : Char) : List Char → Option (List Char)
  | c :: rest => if c = mark then some rest else none
  | [] => none

/-- What follows a date. -/
def skipDate? (chars : List Char) : Option (List Char) := do
  let (year, rest) ← readFixed? 4 0 9999 chars
  let (month, rest) ← readFixed? 2 1 12 (← readMark? '-' rest)
  let (_, rest) ← readFixed? 2 1 (daysOfMonth year month) (← readMark? '-' rest)
  return rest

/-- What follows a time of day. -/
def skipTime? (chars : List Char) : Option (List Char) := do
  let (_, rest) ← readFixed? 2 0 23 chars
  let (_, rest) ← readFixed? 2 0 59 (← readMark? ':' rest)
  let (_, rest) ← readFixed? 2 0 60 (← readMark? ':' rest)
  match rest with
  | '.' :: c :: fraction =>
    if c.isDigit then return fraction.dropWhile Char.isDigit else return rest
  | rest => return rest

/-- What follows an offset from the zero meridian. -/
def skipOffset? : List Char → Option (List Char)
  | [] => none
  | sign :: rest =>
    if sign = 'Z' ∨ sign = 'z' then some rest
    else if sign = '+' ∨ sign = '-' then do
      let (_, rest) ← readFixed? 2 0 23 rest
      let (_, rest) ← readFixed? 2 0 59 (← readMark? ':' rest)
      return rest
    else none

/-- What follows a date, a time, or both. -/
def skipDateTime? (chars : List Char) : Option (List Char) :=
  match skipDate? chars with
  | none => skipTime? chars
  | some [] => some []
  | some (mark :: rest) =>
    match (if mark = 'T' ∨ mark = 't' ∨ mark = ' ' then skipTime? rest else none) with
    | none => some (mark :: rest)
    | some behind => some ((skipOffset? behind).getD behind)

/-- A date or a number. -/
def readDateOrNumber? (chars : List Char) : Option (Toml × List Char) :=
  ((skipDateTime? chars).map (.date, ·)).or
    ((readFloat? chars).or ((readSpecialFloat? chars).or (readInteger? chars)))

end DesktopAutomation.Toml
