import DesktopAutomation.Text.Unicode.CaseRun
import DesktopAutomation.Text.Unicode.Printable

/-!
Quoted texts, as messages show them: between double quotes, with every character that would not
show as itself written by an escape.
-/

namespace DesktopAutomation.Text
open Unicode

/-- A character that has no visible form of its own, or that would join the one before it. -/
def needsCodePoint (c : Char) : Bool :=
  inRanges graphemeExtendRanges c.toNat || inRanges unprintableRanges c.toNat
    || inRanges fillerRanges c.toNat

/-- One character inside quotes. Quotes, backslashes and the common control characters have short
escapes; other hidden characters are written by their code point in hexadecimal.
-/
def escapeQuoted (c : Char) : List Char :=
  match c with
  | '\x00' => ['\\', '0']
  | '\t' => ['\\', 't']
  | '\n' => ['\\', 'n']
  | '\r' => ['\\', 'r']
  | '"' => ['\\', '"']
  | '\\' => ['\\', '\\']
  | _ =>
    if needsCodePoint c then
      ['\\', 'u', '\x7b'] ++ Nat.toDigits 16 c.toNat ++ ['\x7d']
    else
      [c]

/-- A text between double quotes. -/
def quoted (text : String) : String :=
  String.ofList ('"' :: text.toList.flatMap escapeQuoted ++ ['"'])

end DesktopAutomation.Text
