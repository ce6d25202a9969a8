import DesktopAutomation.Json.Literal
import DesktopAutomation.Number.Natural

/-!
Tokens of JSON texts. A text is read one character at a time by a machine with a small state. A
number or a string that is rightly written but names no value, as too large a number or half of a
surrogate pair does, becomes a token without a value.
-/

namespace DesktopAutomation

/-- A token. Numbers and strings hold their value, if they name one. -/
inductive JsonToken
  | openObject
  | closeObject
  | openArray
  | closeArray
  | comma
  | colon
  | null
  | bool (value : Bool)
  | number (value : Option JsonNumber)
  | string (value : Option String)

namespace JsonToken

/-- The part of a string that has been read. `pending` is the first half of a surrogate pair that
waits for its second half; `sound` turns false at a half without the other.
-/
structure Body where
  reversed : List Char
  pending : Option Nat
  sound : Bool

/-- The empty string. -/
def Body.empty : Body := ⟨[], none, true⟩

/-- Takes a character in; a waiting half stays alone. -/
def Body.push (body : Body) (c : Char) : Body :=
  ⟨c :: body.reversed, none, body.sound && body.pending.isNone⟩

/-- Takes a sixteen-bit unit in: a whole character, or half of one. -/
def Body.pushUnit (body : Body) (unit : Nat) : Body :=
  let isFirst := 0xd800 ≤ unit ∧ unit < 0xdc00
  let isSecond := 0xdc00 ≤ unit ∧ unit < 0xe000
  if isSecond then
    match body.pending with
    | some first =>
      ⟨Char.ofNat (0x10000 + (first - 0xd800) * 0x400 + (unit - 0xdc00)) :: body.reversed, none,
        body.sound⟩
    | none => ⟨body.reversed, none, false⟩
  else if isFirst then
    ⟨body.reversed, some unit, body.sound && body.pending.isNone⟩
  else
    body.push (Char.ofNat unit)

/-- The text of a finished string. -/
def Body.text? (body : Body) : Option String :=
  if body.sound && body.pending.isNone then some (String.ofList body.reversed.reverse) else none

/-- What the characters before belong to. -/
inductive Mode
  | between
  | word (reversed : List Char)
  | number (reversed : List Char)
  | string (body : Body)
  | escape (body : Body)
  | unit (body : Body) (digits : Nat) (value : Nat)

/-- The reader: the tokens so far, the last one first, and what is being read. -/
structure Reader where
  reversed : List JsonToken
  mode : Mode

/-- The white space between tokens. -/
def isSpace (c : Char) : Bool := c == ' ' || c == '\t' || c == '\n' || c == '\r'

/-- The characters that number literals are made of. -/
def isNumberChar (c : Char) : Bool :=
  c.isDigit || c == '-' || c == '+' || c == '.' || c == 'e' || c == 'E'

/-- The token that a word names. -/
def ofWord? (word : List Char) : Option JsonToken :=
  if word = "null".toList then some .null
  else if word = "true".toList then some (.bool true)
  else if word = "false".toList then some (.bool false)
  else none

/-- The token of one mark. -/
def ofMark? : Char → Option JsonToken
  | '\x7b' => some .openObject
  | '\x7d' => some .closeObject
  | '[' => some .openArray
  | ']' => some .closeArray
  | ',' => some .comma
  | ':' => some .colon
  | _ => none

/-- The character of a one-letter escape. -/
def ofEscape? : Char → Option Char
  | '"' => some '"'
  | '\\' => some '\\'
  | '/' => some '/'
  | 'b' => some '\x08'
  | 'f' => some '\x0c'
  | 'n' => some '\n'
  | 'r' => some '\r'
  | 't' => some '\t'
  | _ => none

/-- Ends the word or number that is being read, if one is. Strings do not end by themselves. -/
def Reader.settle? (reader : Reader) : Option (List JsonToken) :=
  match reader.mode with
  | .between => some reader.reversed
  | .word reversed => (ofWord? reversed.reverse).map (· :: reader.reversed)
  | .number reversed =>
    (NumberLiteral.ofChars? reversed.reverse).map fun literal =>
      .number literal.number? :: reader.reversed
  | _ => none

/-- Reads a character that belongs to no token so far. -/
def start? (tokens : List JsonToken) (c : Char) : Option Reader :=
  if isSpace c then some ⟨tokens, .between⟩
  else if c = '"' then some ⟨tokens, .string .empty⟩
  else if c.isDigit || c == '-' then some ⟨tokens, .number [c]⟩
  else if c.isLower then some ⟨tokens, .word [c]⟩
  else (ofMark? c).map fun token => ⟨token :: tokens, .between⟩

/-- Reads one character. -/
def Reader.read? (reader : Reader) (c : Char) : Option Reader :=
  match reader.mode with
  | .between => start? reader.reversed c
  | .word reversed =>
    if c.isLower then some { reader with mode := .word (c :: reversed) }
    else reader.settle?.bind (start? · c)
  | .number reversed =>
    if isNumberChar c then some { reader with mode := .number (c :: reversed) }
    else reader.settle?.bind (start? · c)
  | .string body =>
    if c = '"' then some ⟨.string body.text? :: reader.reversed, .between⟩
    else if c = '\\' then some { reader with mode := .escape body }
    else if c.toNat < 0x20 then none
    else some { reader with mode := .string (body.push c) }
  | .escape body =>
    if c = 'u' then some { reader with mode := .unit body 0 0 }
    else (ofEscape? c).map fun escaped => { reader with mode := .string (body.push escaped) }
  | .unit body digits value =>
    (Number.digit? 16 c).map fun digit =>
      let value := value * 16 + digit
      if digits = 3 then { reader with mode := .string (body.pushUnit value) }
      else { reader with mode := .unit body (digits + 1) value }

/-- The tokens of a text. -/
def ofChars? (chars : List Char) : Option (List JsonToken) := do
  let reader ← chars.foldlM Reader.read? ⟨[], .between⟩
  let reversed ← reader.settle?
  return reversed.reverse

end JsonToken

end DesktopAutomation
