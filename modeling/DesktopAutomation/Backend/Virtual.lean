import DesktopAutomation.Error

/-!
Backends take the input that a run sends. A virtual screen is a backend that only keeps a record:
where the pointer is and what was sent. It can be switched offline, also by itself right behind a
number of calls.
-/

namespace DesktopAutomation

/-- Something that takes input. A call either fails or is carried out before the next one. -/
structure InputBackend (σ : Type) where
  send : Dispatch → σ → Option BackendError × σ

-----------------------------------------------------------------------------------------
-- The virtual screen
-----------------------------------------------------------------------------------------

/-- A screen with a pointer and a record of what was sent to it, the last first. -/
structure VirtualScreen where
  screen : Screen
  pointer : Point
  record : List Dispatch
  offline : Bool
deriving DecidableEq, Repr

namespace VirtualScreen

/-- A screen that nothing was sent to. The pointer is in its top left corner. -/
def blank (screen : Screen) : VirtualScreen := ⟨screen, ⟨0, 0⟩, [], false⟩

/-- What was sent, in order. -/
def dispatches (device : VirtualScreen) : List Dispatch := device.record.reverse

/-- Where the pointer is behind a dispatch. -/
def pointerAfter (pointer : Point) : Dispatch → Point
  | .move target => target
  | _ => pointer

/-- Why a dispatch is refused: the screen is offline, or the target of a move lies outside it. -/
def refusal? (device : VirtualScreen) (dispatch : Dispatch) : Option BackendError :=
  if device.offline then some .offline
  else
    match dispatch with
    | .move target =>
      if device.screen.contains target then none else some (.outOfBounds target device.screen)
    | _ => none

/-- Takes a dispatch. One that is refused leaves no trace. -/
def send (dispatch : Dispatch) (device : VirtualScreen) : Option BackendError × VirtualScreen :=
  match device.refusal? dispatch with
  | some error => (some error, device)
  | none =>
    (none, { device with
      pointer := pointerAfter device.pointer dispatch
      record := dispatch :: device.record })

/-- The place of the pointer, which an offline screen does not tell. -/
def pointer? (device : VirtualScreen) : Except BackendError Point :=
  if device.offline then .error .offline else .ok device.pointer

/-- Virtual screens take input. -/
def backend : InputBackend VirtualScreen := ⟨send⟩

end VirtualScreen

-----------------------------------------------------------------------------------------
-- A screen that fails
-----------------------------------------------------------------------------------------

/-- A virtual screen that goes offline right behind a number of further calls, if one is given. -/
structure FailingScreen where
  device : VirtualScreen
  callsLeft : Option Nat
deriving DecidableEq, Repr

namespace FailingScreen

/-- The screen goes offline if no call is left. -/
def settle (screen : FailingScreen) : FailingScreen :=
  if screen.callsLeft = some 0 then
    { screen with device := { screen.device with offline := true } }
  else
    screen

/-- Takes a dispatch, which is one call whether it is refused or not. -/
def send (dispatch : Dispatch) (screen : FailingScreen) : Option BackendError × FailingScreen :=
  let (error?, device) := screen.device.send dispatch
  (error?, settle ⟨device, screen.callsLeft.map (· - 1)⟩)

/-- Failing screens take input. -/
def backend : InputBackend FailingScreen := ⟨send⟩

end FailingScreen

end DesktopAutomation
