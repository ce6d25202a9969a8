/-!
White space and trimming. The blank characters are those with the Unicode property White_Space.
-/

namespace DesktopAutomation.Text

/-- The characters with the Unicode property White_Space. -/
def isBlank (c : Char) : Bool :=
  let point := c.toNat
  (9 ≤ point && point ≤ 13) || point == 0x20 || point == 0x85 || point == 0xa0
    || point == 0x1680 || (0x2000 ≤ point && point ≤ 0x200a) || point == 0x2028
    || point == 0x2029 || point == 0x202f || point == 0x205f || point == 0x3000

/-- A list without the longest tail whose characters all satisfy `drop`. -/
def trimEnd (drop : Char → Bool) (chars : List Char) : List Char :=
  (chars.reverse.dropWhile drop).reverse

/-- A list without the longest head and the longest tail whose characters all satisfy `drop`. -/
def trimEnds (drop : Char → Bool) (chars : List Char) : List Char :=
  trimEnd drop (chars.dropWhile drop)

/-- A text without the white space at its two ends. -/
def trim (text : String) : String :=
  String.ofList (trimEnds isBlank text.toList)

end DesktopAutomation.Text
