/-!
Cutting texts: at every occurrence of a divider, or after a number of characters.
-/

namespace DesktopAutomation.Text

/-- Cuts a list at each occurrence of `divider`, leftmost first. `skip` characters of an occurrence
are still to be passed over, and `piece` holds the current piece backwards.
-/
def cutBehind (divider : List Char) : (skip : Nat) → (piece : List Char) → List Char
    → List (List Char)
  | _, piece, [] => [piece.reverse]
  | skip + 1, piece, _ :: rest => cutBehind divider skip piece rest
  | 0, piece, c :: rest =>
    if divider.isPrefixOf (c :: rest) then
      piece.reverse :: cutBehind divider (divider.length - 1) [] rest
    else
      cutBehind divider 0 (c :: piece) rest

/-- The pieces of a text between the occurrences of a divider. An empty divider cuts between all
characters.
-/
def split (text divider : String) : List String :=
  if divider.toList = [] then
    text.toList.map fun c => String.ofList [c]
  else
    (cutBehind divider.toList 0 [] text.toList).map String.ofList

/-- The lines of a text, which line feeds separate. -/
def lines (text : String) : List String :=
  split text "\n"

/-- At most `limit` characters of a text; an ellipsis shows that some are missing. -/
def shorten (text : String) (limit : Nat) : String :=
  if limit < text.toList.length then
    String.ofList (text.toList.take limit ++ ['…'])
  else
    text

end DesktopAutomation.Text
