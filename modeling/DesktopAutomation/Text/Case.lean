import DesktopAutomation.Text.Unicode.Lower
import DesktopAutomation.Text.Unicode.Upper
import DesktopAutomation.Text.Unicode.Cased

/-!
Lower and upper case of texts. Lower case depends on the neighbours in one place: a capital sigma
at the end of a word becomes the final form. Upper case is given letter by letter.
-/

namespace DesktopAutomation.Text
open Unicode

/-- The lower case of one character, whatever stands around it. -/
def lowerChar (c : Char) : List Char :=
  if c = '\u0130' then ['i', '\u0307'] else [Char.ofNat (mapCase lowerRuns c.toNat)]

/-- A letter with a case comes first, once the characters that do not count are skipped. -/
def meetsCased (chars : List Char) : Bool :=
  match chars.dropWhile (inRanges caseIgnorableRanges ·.toNat) with
  | c :: _ => inRanges casedRanges c.toNat
  | [] => false

/-- A capital sigma becomes the final form where a word ends with it: letters stand before it and
none behind it. `before` is read backwards from the sigma.
-/
def lowerSigma (before after : List Char) : Char :=
  if meetsCased before && !meetsCased after then '\u03c2' else '\u03c3'

/-- The lower case of a list of characters behind the characters `before`, read backwards. -/
def lowerBehind (before : List Char) : List Char → List Char
  | [] => []
  | c :: rest =>
    (if c = '\u03a3' then [lowerSigma before rest] else lowerChar c)
      ++ lowerBehind (c :: before) rest

/-- The lower case of a text. -/
def lowercase (text : String) : String :=
  String.ofList (lowerBehind [] text.toList)

/-- The upper case of one character, which may be longer than one character. -/
def upperChar (c : Char) : List Char :=
  match upperGrowing.lookup c.toNat with
  | some points => points.map Char.ofNat
  | none => [Char.ofNat (mapCase upperRuns c.toNat)]

/-- The upper case of a text. -/
def uppercase (text : String) : String :=
  String.ofList (text.toList.flatMap upperChar)

end DesktopAutomation.Text
