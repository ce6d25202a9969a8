import DesktopAutomation.Proofs.Json.Numbers

/-! The tokens of a printed value, whatever blank text its layout puts between them.
A text is told by what it adds to the tokens before it. Texts may follow each other where the first
one ends by itself or the second one starts with a separating character.
-/

namespace DesktopAutomation

namespace JsonToken

-----------------------------------------------------------------------------------------
-- Texts and their tokens
-----------------------------------------------------------------------------------------

/-- Between two tokens, the reader takes the text in as these tokens and is between two again. -/
def LexesClosed (chars : List Char) (tokens : List JsonToken) : Prop :=
  ∀ before,
    chars.foldlM Reader.read? ⟨before, .between⟩ = some ⟨tokens.reverse ++ before, .between⟩

/-- Between two tokens, the reader takes the text in as these tokens; the last one may go on. -/
def Lexes (chars : List Char) (tokens : List JsonToken) : Prop :=
  ∀ before, ∃ reader : Reader,
    chars.foldlM Reader.read? ⟨before, .between⟩ = some reader
    ∧ reader.settle? = some (tokens.reverse ++ before)

/-- A text that no word and no number goes on with. -/
def Separates (chars : List Char) : Prop :=
  ∀ c ∈ chars.head?, c.isLower = false ∧ isNumberChar c = false

/-- If the reader is between two tokens at the end, no token is left open. -/
theorem LexesClosed.lexes {chars : List Char} {tokens : List JsonToken}
    (closed : LexesClosed chars tokens)
    : Lexes chars tokens :=
  fun before => ⟨_, closed before, rfl⟩

theorem lexesClosed_nil : LexesClosed [] [] := fun _ => rfl

theorem separates_nil : Separates [] := by simp [Separates]

/-- Neither a word nor a number goes on with a character that is in none of them. -/
theorem separates_cons {c : Char} {rest : List Char} (lower : c.isLower = false)
    (number : isNumberChar c = false)
    : Separates (c :: rest) := by
  simpa [Separates] using ⟨lower, number⟩

/-- Behind a text that ends between two tokens, the next text is taken in as before. -/
theorem LexesClosed.append {left right : List Char} {tokens more : List JsonToken}
    (first : LexesClosed left tokens) (second : LexesClosed right more)
    : LexesClosed (left ++ right) (tokens ++ more) := by
  intro before
  rw [List.foldlM_append, first before]
  simpa using second (tokens.reverse ++ before)

/-- Behind a text that ends between two tokens, the last token of the next text may go on. -/
theorem LexesClosed.append_lexes {left right : List Char} {tokens more : List JsonToken}
    (first : LexesClosed left tokens) (second : Lexes right more)
    : Lexes (left ++ right) (tokens ++ more) := by
  intro before
  obtain ⟨reader, read, settled⟩ := second (tokens.reverse ++ before)
  refine ⟨reader, ?_, by simpa using settled⟩
  rw [List.foldlM_append, first before]
  exact read

/-- Before a separating character the reader ends what it reads, whatever that is. -/
theorem Reader.read?_settled (reader : Reader) {tokens : List JsonToken} {c : Char}
    (settled : reader.settle? = some tokens) (lower : c.isLower = false)
    (number : isNumberChar c = false)
    : reader.read? c = start? tokens c := by
  obtain ⟨reversed, mode⟩ := reader
  cases mode with
  | between =>
      obtain rfl : reversed = tokens := Option.some.inj settled
      rfl
  | word chars => simp only [Reader.read?, lower, settled, Bool.false_eq_true, if_false,
      Option.bind_some]
  | number chars => simp only [Reader.read?, number, settled, Bool.false_eq_true, if_false,
      Option.bind_some]
  | string body => simp [Reader.settle?] at settled
  | escape body => simp [Reader.settle?] at settled
  | unit body digits value => simp [Reader.settle?] at settled

/-- A token that may go on ends where the next text separates it. -/
theorem Lexes.append {left right : List Char} {tokens more : List JsonToken}
    (first : Lexes left tokens) (second : Lexes right more) (separates : Separates right)
    : Lexes (left ++ right) (tokens ++ more) := by
  intro before
  obtain ⟨reader, read, settled⟩ := first before
  obtain ⟨last, readLast, settledLast⟩ := second (tokens.reverse ++ before)
  rw [List.foldlM_append, read]
  cases right with
  | nil =>
      obtain rfl := Option.some.inj readLast
      refine ⟨reader, rfl, settled.trans ?_⟩
      simpa [Reader.settle?] using settledLast
  | cons c rest =>
      obtain ⟨lower, number⟩ := separates c rfl
      refine ⟨last, ?_, by simpa using settledLast⟩
      rw [List.foldlM_cons, Reader.read?_settled ⟨_, .between⟩ rfl lower number]
        at readLast
      rw [Option.bind_eq_bind, Option.bind_some, List.foldlM_cons,
        Reader.read?_settled reader settled lower number]
      exact readLast

/-- The reader is between two tokens behind a text that ends there. -/
theorem Lexes.append_closed {left right : List Char} {tokens more : List JsonToken}
    (first : Lexes left tokens) (second : LexesClosed right more) (separates : Separates right)
    (some : right ≠ [])
    : LexesClosed (left ++ right) (tokens ++ more) := by
  intro before
  obtain ⟨reader, read, settled⟩ := first before
  have closed := second (tokens.reverse ++ before)
  rw [List.foldlM_append, read]
  cases right with
  | nil => exact absurd rfl some
  | cons c rest =>
      obtain ⟨lower, number⟩ := separates c rfl
      rw [List.foldlM_cons, Reader.read?_settled ⟨_, .between⟩ rfl lower number]
        at closed
      rw [Option.bind_eq_bind, Option.bind_some, List.foldlM_cons,
        Reader.read?_settled reader settled lower number]
      simpa using closed

-----------------------------------------------------------------------------------------
-- Marks and blanks
-----------------------------------------------------------------------------------------

/-- The text of a mark is one token. -/
theorem lexesClosed_mark {c : Char} {token : JsonToken} (mark : ofMark? c = some token)
    : LexesClosed [c] [token] := by
  intro before
  have started : start? before c = some ⟨token :: before, .between⟩ := by
    revert mark
    unfold ofMark?
    split
    all_goals
      intro mark
      cases mark <;> rfl
  simpa [Reader.read?] using started

/-- Blank text has no tokens. -/
theorem lexesClosed_blank {chars : List Char} (blank : ∀ c ∈ chars, isSpace c = true)
    : LexesClosed chars [] := by
  induction chars with
  | nil => exact lexesClosed_nil
  | cons c rest ih =>
      obtain ⟨space, blank⟩ := List.forall_mem_cons.mp blank
      intro before
      have started : start? before c = some ⟨before, .between⟩ := by rw [start?, if_pos space]
      simpa [Reader.read?, started] using ih blank before

/-- Blanks separate what stands on both sides of them. -/
theorem separates_blank {chars : List Char} (blank : ∀ c ∈ chars, isSpace c = true)
    {rest : List Char} (separates : Separates rest)
    : Separates (chars ++ rest) := by
  cases chars with
  | nil => exact separates
  | cons c chars =>
      have space := blank c List.mem_cons_self
      simp only [isSpace, Bool.or_eq_true, beq_iff_eq] at space
      rcases space with ((rfl | rfl) | rfl) | rfl <;> exact separates_cons rfl rfl

-----------------------------------------------------------------------------------------
-- Strings
-----------------------------------------------------------------------------------------

/-- A sound part of a string: the characters, the last one first. -/
def Body.plain (reversed : List Char) : Body := ⟨reversed, none, true⟩

/-- A hexadecimal digit is read as its value. -/
theorem digit?_digitChar {d : Nat} (small : d < 16)
    : Number.digit? 16 (Nat.digitChar d) = some d := by
  revert d
  decide

/-- An escaped character is read as the character. -/
theorem foldlM_escape (tokens : List JsonToken) (reversed : List Char) (c : Char)
    : (Json.escape c).foldlM Reader.read? ⟨tokens, .string (.plain reversed)⟩
      = some ⟨tokens, .string (.plain (c :: reversed))⟩ := by
  unfold Json.escape
  split
  iterate 7 rfl
  next notQuote notBackslash _ _ _ _ _ =>
    split
    · next control =>
        have high := digit?_digitChar (d := c.toNat / 16) (by omega)
        have low := digit?_digitChar (d := c.toNat % 16) (by omega)
        have zero : Number.digit? 16 '0' = some 0 := rfl
        have value : c.toNat / 16 * 16 + c.toNat % 16 = c.toNat := by omega
        have first : ¬(0xd800 ≤ c.toNat ∧ c.toNat < 0xdc00) := by omega
        have second : ¬(0xdc00 ≤ c.toNat ∧ c.toNat < 0xe000) := by omega
        simp [Reader.read?, zero, high, low, value, Body.pushUnit, first, second, Body.push,
          Body.plain]
    · next printed =>
        simp only [List.foldlM_cons, List.foldlM_nil, Reader.read?, if_neg (notQuote ·),
          if_neg (notBackslash ·), if_neg printed]
        rfl

/-- Escaped characters are read as the characters. -/
theorem foldlM_escapes (tokens : List JsonToken) (reversed chars : List Char)
    : (chars.flatMap Json.escape).foldlM Reader.read? ⟨tokens, .string (.plain reversed)⟩
      = some ⟨tokens, .string (.plain (chars.reverse ++ reversed))⟩ := by
  induction chars generalizing reversed with
  | nil => rfl
  | cons c rest ih =>
      rw [List.flatMap_cons, List.foldlM_append, foldlM_escape, Option.bind_eq_bind,
        Option.bind_some, ih, List.reverse_cons, List.append_assoc, List.singleton_append]

/-- The text of a string is one token, with the string. -/
theorem lexesClosed_stringText (value : String)
    : LexesClosed (Json.stringText value) [.string (some value)] := by
  intro before
  have opened : Reader.read? ⟨before, .between⟩ '"' = some ⟨before, .string (.plain [])⟩ := rfl
  have closed (reversed : List Char)
      : Reader.read? ⟨before, .string (.plain reversed)⟩ '"'
        = some ⟨.string (some (String.ofList reversed.reverse)) :: before, .between⟩ := rfl
  rw [Json.stringText, List.foldlM_append, List.foldlM_cons, opened, Option.bind_eq_bind,
    Option.bind_some, foldlM_escapes, Option.bind_some, List.foldlM_cons, closed]
  simp

-----------------------------------------------------------------------------------------
-- Words and numbers
-----------------------------------------------------------------------------------------

theorem lexes_null : Lexes "null".toList [.null] := fun _ => ⟨_, rfl, rfl⟩

/-- A truth value is taken in as one token. -/
theorem lexes_bool (value : Bool)
    : Lexes (if value then "true" else "false").toList [.bool value] := by
  cases value <;> exact fun _ => ⟨_, rfl, rfl⟩

/-- A digit or a minus sign starts a number. -/
theorem start?_number (tokens : List JsonToken) {c : Char}
    (starts : (c.isDigit || c == '-') = true)
    : start? tokens c = some ⟨tokens, .number [c]⟩ := by
  have space : isSpace c = false := by
    rw [Bool.eq_false_iff]
    intro space
    simp only [isSpace, Bool.or_eq_true, beq_iff_eq] at space
    rcases space with ((rfl | rfl) | rfl) | rfl <;> exact absurd starts (by decide)
  have quote : c ≠ '"' := by
    rintro rfl
    exact absurd starts (by decide)
  rw [start?, if_neg (by simp [space]), if_neg quote, if_pos starts]

/-- Number characters behind the first one belong to the number. -/
theorem foldlM_number (tokens : List JsonToken) (reversed : List Char) {chars : List Char}
    (all : ∀ c ∈ chars, isNumberChar c = true)
    : chars.foldlM Reader.read? ⟨tokens, .number reversed⟩
      = some ⟨tokens, .number (chars.reverse ++ reversed)⟩ := by
  induction chars generalizing reversed with
  | nil => rfl
  | cons c rest ih =>
      obtain ⟨number, all⟩ := List.forall_mem_cons.mp all
      have step
          : Reader.read? ⟨tokens, .number reversed⟩ c = some ⟨tokens, .number (c :: reversed)⟩ := by
        rw [Reader.read?]
        exact if_pos number
      rw [List.foldlM_cons, step, Option.bind_eq_bind, Option.bind_some, ih _ all,
        List.reverse_cons, List.append_assoc, List.singleton_append]

/-- The text of a number is one token, with the number that it reads as. -/
theorem lexes_number (number : JsonNumber) : Lexes number.text [.number number.reread?] := by
  obtain ⟨negative, chars, whole, fraction, exponent, spelled, magnitude⟩ := number.text_literal
  have literal := magnitude.ofChars?_eq negative
  have all : ∀ c ∈ number.text, isNumberChar c = true := by
    rw [spelled]
    refine List.forall_mem_append.mpr ⟨?_, magnitude.chars⟩
    cases negative <;> simp [NumberLiteral.signText, isNumberChar]
  obtain ⟨d, digits, rfl, digit⟩ := magnitude.first
  obtain ⟨c, rest, first, starts⟩
      : ∃ c rest, number.text = c :: rest ∧ (c.isDigit || c == '-') = true := by
    cases negative with
    | true => exact ⟨'-', d :: digits, spelled, rfl⟩
    | false => exact ⟨d, digits, spelled, by simp [digit]⟩
  rw [JsonNumber.reread?, spelled, literal, ← spelled, Option.bind_some]
  intro before
  -- the reader is still within the number, as only the next character ends it
  refine ⟨⟨before, .number number.text.reverse⟩, ?_, ?_⟩
  · have started : Reader.read? ⟨before, .between⟩ c = some ⟨before, .number [c]⟩ :=
      start?_number before starts
    rw [first] at all ⊢
    rw [List.foldlM_cons, started, Option.bind_eq_bind, Option.bind_some,
      foldlM_number before [c] (fun c member => all c (List.mem_cons_of_mem _ member)),
      List.reverse_cons]
  · simp [Reader.settle?, spelled, literal]

end JsonToken

-----------------------------------------------------------------------------------------
-- Values
-----------------------------------------------------------------------------------------

/-- A layout that puts nothing but white space between tokens. -/
structure JsonLayout.Blank (layout : JsonLayout) : Prop where
  lineBreak : ∀ depth, ∀ c ∈ layout.lineBreak depth, JsonToken.isSpace c = true
  gap : ∀ c ∈ layout.gap, JsonToken.isSpace c = true

/-- The indented layout puts line breaks and spaces alone between tokens. -/
theorem JsonLayout.indented_blank : indented.Blank where
  lineBreak depth := by
    refine List.forall_mem_cons.mpr ⟨rfl, fun c member => ?_⟩
    rw [List.eq_of_mem_replicate member]
    rfl
  gap := by simp [indented, JsonToken.isSpace]

namespace Json
open JsonToken

mutual

/-- The tokens of a printed value. -/
def tokens : Json → List JsonToken
  | .null => [.null]
  | .bool value => [.bool value]
  | .number value => [.number value.reread?]
  | .string value => [.string (some value)]
  | .array items => .openArray :: itemTokens true items ++ [.closeArray]
  | .object members => .openObject :: memberTokens true members ++ [.closeObject]

/-- The tokens of the items of an array; a comma stands before every item but the first. -/
def itemTokens (first : Bool) : List Json → List JsonToken
  | [] => []
  | item :: rest => (if first then [] else [.comma]) ++ (item.tokens ++ itemTokens false rest)

/-- The tokens of the members of an object; a comma stands before every member but the first. -/
def memberTokens (first : Bool) : List (String × Json) → List JsonToken
  | [] => []
  | (key, value) :: rest =>
    (if first then [] else [.comma])
      ++ (.string (some key) :: .colon :: (value.tokens ++ memberTokens false rest))

end

/-- A comma stands before every item but the first. -/
theorem lexesClosed_separator (first : Bool)
    : LexesClosed (if first then [] else [',']) (if first then [] else [.comma]) := by
  cases first with
  | true => exact lexesClosed_nil
  | false => exact lexesClosed_mark rfl

variable {layout : JsonLayout}

/-- The items behind the first one start with a comma, if there are any. -/
theorem separates_printItems (depth : Nat) (items : List Json)
    : Separates (printItems layout depth false items) := by
  cases items with
  | nil => exact separates_nil
  | cons item rest => simpa [printItems] using separates_cons rfl rfl

/-- The members behind the first one start with a comma, if there are any. -/
theorem separates_printMembers (depth : Nat) (members : List (String × Json))
    : Separates (printMembers layout depth false members) := by
  cases members with
  | nil => exact separates_nil
  | cons member rest => simpa [printMembers] using separates_cons rfl rfl

variable (blank : layout.Blank)
include blank

/-- A bracket that closes stands behind any value. -/
theorem lexesClosed_close {c : Char} {token : JsonToken} (mark : ofMark? c = some token)
    (depth : Nat)
    : LexesClosed (layout.lineBreak depth ++ [c]) [token] :=
  (lexesClosed_blank (blank.lineBreak depth)).append (lexesClosed_mark mark)

mutual

/-- The text of a value has the tokens of the value. -/
theorem lexes_print (depth : Nat) : ∀ json : Json, Lexes (json.print layout depth) json.tokens
  | .null => lexes_null
  | .bool value => lexes_bool value
  | .number value => lexes_number value
  | .string value => (lexesClosed_stringText value).lexes
  | .array items => by
      have opened : LexesClosed ['['] [.openArray] := lexesClosed_mark rfl
      rw [print, tokens]
      split
      · next none =>
          obtain rfl := List.isEmpty_iff.mp none
          exact (opened.append (lexesClosed_mark rfl)).lexes
      · have closed := (lexes_printItems (depth + 1) true items).append_closed
          (lexesClosed_close blank (c := ']') rfl depth)
          (separates_blank (blank.lineBreak depth) (separates_cons rfl rfl)) (by simp)
        simpa using (opened.append closed).lexes
  | .object members => by
      have opened : LexesClosed ['\x7b'] [.openObject] := lexesClosed_mark rfl
      rw [print, tokens]
      split
      · next none =>
          obtain rfl := List.isEmpty_iff.mp none
          exact (opened.append (lexesClosed_mark rfl)).lexes
      · have closed := (lexes_printMembers (depth + 1) true members).append_closed
          (lexesClosed_close blank (c := '\x7d') rfl depth)
          (separates_blank (blank.lineBreak depth) (separates_cons rfl rfl)) (by simp)
        simpa using (opened.append closed).lexes

/-- The text of items has the tokens of the items. -/
theorem lexes_printItems (depth : Nat) (first : Bool)
    : ∀ items : List Json, Lexes (printItems layout depth first items) (itemTokens first items)
  | [] => lexesClosed_nil.lexes
  | item :: rest => by
      have start := (lexesClosed_separator first).append
        (lexesClosed_blank (blank.lineBreak depth))
      have behind := (lexes_print depth item).append (lexes_printItems depth false rest)
        (separates_printItems depth rest)
      rw [printItems, itemTokens]
      simpa using start.append_lexes behind

/-- The text of members has the tokens of the members. -/
theorem lexes_printMembers (depth : Nat) (first : Bool)
    : ∀ members : List (String × Json),
        Lexes (printMembers layout depth first members) (memberTokens first members)
  | [] => lexesClosed_nil.lexes
  | (key, value) :: rest => by
      have start := (lexesClosed_separator first).append
        (lexesClosed_blank (blank.lineBreak depth))
      have named := ((start.append (lexesClosed_stringText key)).append
        (lexesClosed_mark (c := ':') rfl)).append (lexesClosed_blank blank.gap)
      have behind := (lexes_print depth value).append (lexes_printMembers depth false rest)
        (separates_printMembers depth rest)
      rw [printMembers, memberTokens]
      simpa using named.append_lexes behind

end

omit blank in
/-- A printed value is taken apart into the tokens of the value, in every blank layout. -/
theorem ofChars?_print (blank : layout.Blank) (depth : Nat) (json : Json)
    : ofChars? (json.print layout depth) = some json.tokens := by
  obtain ⟨reader, read, settled⟩ := lexes_print blank depth json []
  simp [ofChars?, read, settled]

end Json

end DesktopAutomation
