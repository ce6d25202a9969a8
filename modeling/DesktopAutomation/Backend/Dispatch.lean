import DesktopAutomation.Step.Input
import DesktopAutomation.Text.Quoted
import DesktopAutomation.Text.Split

/-!
Dispatches: what is sent to a screen. A screen has a size, and its points lie below that size.
-/

namespace DesktopAutomation

/-- The size of a screen. -/
structure Screen where
  width : UInt64
  height : UInt64
deriving DecidableEq, Repr

namespace Screen

/-- The size of a screen that is not told otherwise. -/
def standard : Screen := ⟨1920, 1080⟩

/-- A point lies on the screen. -/
def contains (screen : Screen) (point : Point) : Bool :=
  point.x < screen.width && point.y < screen.height

end Screen

/-- A call that sends input: a move of the pointer, a click, a line of text, or a key combination,
which is pressed by its character or by its code.
-/
inductive Dispatch
  | move (target : Point)
  | click (button : MouseButton)
  | text (line : String)
  | keys (combination : KeyCombination) (unicode : Bool)
deriving DecidableEq, Repr

namespace Dispatch

/-- At most this many characters of a sent text are shown. -/
def shownTextLimit : Nat := 50

/-- The text that shows a dispatch. -/
def shown : Dispatch → String
  | .move target => s!"move to ({target.x.toNat}, {target.y.toNat})"
  | .click button => s!"click {button.name}"
  | .text line => s!"type {Text.quoted (Text.shorten line shownTextLimit)}"
  | .keys combination true => s!"press {combination.text} (unicode)"
  | .keys combination false =>
    s!"press {combination.text} (key code {combination.keyCode.toNat})"

end Dispatch

end DesktopAutomation
