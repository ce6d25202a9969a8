import DesktopAutomation.Toml.Scalar

/-!
Reading TOML texts. A text is a list of pairs of a key and a value, and of headers that say which
table the pairs behind them belong to. Arrays and braces nest to a limited depth, and so do keys.
-/

namespace DesktopAutomation.Toml

/-- Arrays and tables in braces within each other, and the parts of a key, are fewer than this. -/
def nestingLimit : Nat := 80

-----------------------------------------------------------------------------------------
-- Keys
-----------------------------------------------------------------------------------------

/-- A character of a bare key. -/
def isKeyChar (c : Char) : Bool := c.isAlphanum || c == '-' || c == '_'

/-- One part of a key: bare, or a string of one line. -/
def readKeyPart? : Reader String
  | '"' :: rest => (readQuoted? rest).map fun (chars, rest) => (String.ofList chars, rest)
  | '\'' :: rest => (readLiteral? rest).map fun (chars, rest) => (String.ofList chars, rest)
  | chars =>
    let bare := chars.takeWhile isKeyChar
    if bare = [] then none else some (String.ofList bare, chars.drop bare.length)

/-- A key of at most `parts` parts with points between them: the path of all parts but the last, and
the last.
-/
def readKey? (parts : Nat) (chars : List Char) : Option ((List String × String) × List Char) :=
  match parts with
  | 0 => none
  | parts + 1 => do
    let (part, rest) ← readKeyPart? (skipSpaces chars)
    match skipSpaces rest with
    | '.' :: rest =>
      let ((path, last), rest) ← readKey? parts rest
      return ((part :: path, last), rest)
    | rest => return (([], part), rest)

-----------------------------------------------------------------------------------------
-- Values
-----------------------------------------------------------------------------------------

/-- The items of an array behind its bracket. Layout may stand around items, and a comma behind the
last one. At most `count` items are read.
-/
def readItems? (item : Reader Toml) (count : Nat) (chars : List Char)
    : Option (List Toml × List Char) := do
  match count, ← skipLayout? false chars with
  | _, ']' :: rest => return ([], rest)
  | 0, _ => none
  | count + 1, chars =>
    let (first, rest) ← item chars
    match ← skipLayout? false rest with
    | ',' :: rest =>
      let (items, rest) ← readItems? item count rest
      return (first :: items, rest)
    | ']' :: rest => return ([first], rest)
    | _ => none

/-- A pair of a key and a value. -/
def readPair? (value : Reader Toml) (chars : List Char) : Option (Pair × List Char) := do
  let ((path, key), rest) ← readKey? (nestingLimit - 1) chars
  let (value, rest) ← value (skipSpaces (← readMark? '=' rest))
  return (⟨path, key, value⟩, rest)

/-- The pairs of a table in braces, with commas between them. At most `count` pairs are read. -/
def readPairs? (value : Reader Toml) (count : Nat) (chars : List Char)
    : Option (List Pair × List Char) :=
  match count with
  | 0 => none
  | count + 1 => do
    let (first, rest) ← readPair? value chars
    match skipSpaces rest with
    | ',' :: rest =>
      let (pairs, rest) ← readPairs? value count rest
      return (first :: pairs, rest)
    | '\x7d' :: rest => return ([first], rest)
    | _ => none

/-- A table in braces, behind its brace. -/
def readInlineTable? (value : Reader Toml) (chars : List Char) : Option (Toml × List Char) :=
  match skipSpaces chars with
  | '\x7d' :: rest => some (.inlineTable [], rest)
  | chars => do
    let (pairs, rest) ← readPairs? value chars.length chars
    return (.inlineTable (← addPairs? pairs []), rest)

/-- A value with fewer than `depth` arrays and braces within each other. -/
def readValue? (depth : Nat) (chars : List Char) : Option (Toml × List Char) :=
  match chars, depth with
  | '"' :: _, _ | '\'' :: _, _ =>
    (readString? chars).map fun (value, rest) => (.string value, rest)
  | '[' :: rest, depth + 1 =>
    if depth = 0 then none
    else (readItems? (readValue? depth) rest.length rest).map fun (items, rest) => (.array items, rest)
  | '\x7b' :: rest, depth + 1 =>
    if depth = 0 then none else readInlineTable? (readValue? depth) rest
  | 't' :: 'r' :: 'u' :: 'e' :: rest, _ => some (.boolean true, rest)
  | 'f' :: 'a' :: 'l' :: 's' :: 'e' :: rest, _ => some (.boolean false, rest)
  | chars, _ => readDateOrNumber? chars

-----------------------------------------------------------------------------------------
-- Texts
-----------------------------------------------------------------------------------------

/-- A line of a text: blank, a pair, or a header, in single or in double brackets. -/
inductive Line
  | blank
  | pair (pair : Pair)
  | header (path : List String) (key : String)
  | doubleHeader (path : List String) (key : String)

/-- Reads a line and its end. The value of a pair may reach over several lines. -/
def readLine? (chars : List Char) : Option (Line × List Char) :=
  match skipSpaces chars with
  | [] => some (.blank, [])
  | '[' :: '[' :: rest => do
    let ((path, key), rest) ← readKey? (nestingLimit - 1) rest
    let rest ← readMark? ']' (← readMark? ']' rest)
    return (.doubleHeader path key, ← readLineEnd? rest)
  | '[' :: rest => do
    let ((path, key), rest) ← readKey? (nestingLimit - 1) rest
    return (.header path key, ← readLineEnd? (← readMark? ']' rest))
  | c :: rest =>
    if c = '#' ∨ c = '\r' ∨ c = '\n' then
      (readLineEnd? (c :: rest)).map (.blank, ·)
    else do
      let (pair, rest) ← readPair? (readValue? nestingLimit) (c :: rest)
      return (.pair pair, ← readLineEnd? rest)

/-- Reads at most `count` lines, up to the end of the text. -/
def readLines? (count : Nat) (chars : List Char) : Option (List Line) :=
  match count, chars with
  | _, [] => some []
  | 0, _ => none
  | count + 1, chars => do
    let (line, rest) ← readLine? chars
    return line :: (← readLines? count rest)

/-- The pairs up to the next header, and the lines from there. -/
def takePairs : List Line → List Pair × List Line
  | .pair pair :: rest =>
    let (pairs, behind) := takePairs rest
    (pair :: pairs, behind)
  | .blank :: rest => takePairs rest
  | lines => ([], lines)

theorem takePairs_length (lines : List Line) : (takePairs lines).2.length ≤ lines.length := by
  fun_induction takePairs lines <;> simp_all <;> omega

/-- Adds the tables of headers, each with the pairs behind it. -/
def addLines? (root : Entries) (lines : List Line) : Option Entries :=
  match lines with
  | [] => some root
  | .header path key :: rest =>
    have := takePairs_length rest
    (addTable? path key (takePairs rest).1 root).bind (addLines? · (takePairs rest).2)
  | .doubleHeader path key :: rest =>
    have := takePairs_length rest
    (addToTables? path key (takePairs rest).1 root).bind (addLines? · (takePairs rest).2)
  | .pair _ :: rest | .blank :: rest => addLines? root rest
termination_by lines.length
decreasing_by all_goals simp_all; try omega

/-- The entries of a TOML text. A byte order mark may stand at its start. -/
def ofText? (text : String) : Option Entries := do
  let chars := text.toList
  let chars := if chars.head? = some '\ufeff' then chars.tail else chars
  let (pairs, rest) := takePairs (← readLines? chars.length chars)
  addLines? (← addPairs? pairs []) rest

end DesktopAutomation.Toml
