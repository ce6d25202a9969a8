import DesktopAutomation.Text.Blank
import DesktopAutomation.Text.Unicode.AsciiBase

/-!
Slugs: texts reduced to the lower case letters, digits and a few marks that are safe in file names.
Letters with accents keep their base.
-/

namespace DesktopAutomation.Text
open Unicode

/-- The characters that separate the words of a text. -/
def isSeparator (c : Char) : Bool := c ∈ [' ', ',', '-', '.', '_']

/-- What a slug keeps of a character: the base of a letter with accents. -/
def slugBase? (c : Char) : Option Char :=
  (asciiBase? c).filter fun base => base.isAlphanum || isSeparator base

/-- How a slug writes a character that it keeps. -/
def slugChar (c : Char) : Char :=
  if c = ' ' then '-' else if c = ',' then '.' else c.toLower

/-- The slug of a text. Separators at its ends are dropped. -/
def slugify (text : String) : String :=
  String.ofList ((trimEnds isSeparator (text.toList.filterMap slugBase?)).map slugChar)

end DesktopAutomation.Text
