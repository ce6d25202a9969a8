import DesktopAutomation.Backend.Virtual

/-! What uses of a virtual screen leave behind. A call is answered from the state of the screen, and
whatever sequence of calls and switches leads to this state, the pointer is where the last move on
record took it, and no move on record left the screen.
-/

namespace DesktopAutomation

/-- The target of a dispatch that moves the pointer. -/
def Dispatch.target? : Dispatch → Option Point
  | .move target => some target
  | _ => none

/-- Where the last move among some dispatches leads; the first of them was sent first. -/
def lastTarget? (dispatches : List Dispatch) : Option Point :=
  (dispatches.filterMap Dispatch.target?).getLast?

/-- The last move is the last dispatch, if this is a move, and else the one before. -/
theorem lastTarget?_concat (dispatches : List Dispatch) (dispatch : Dispatch)
    : lastTarget? (dispatches ++ [dispatch]) = dispatch.target?.or (lastTarget? dispatches) := by
  cases isTarget : dispatch.target? with
  | none => simp [lastTarget?, List.filterMap_append, isTarget]
  | some target => simp [lastTarget?, List.filterMap_append, isTarget]

/-- A screen with some width and height has a corner. -/
theorem Screen.contains_corner {screen : Screen} (wide : screen.width ≠ 0)
    (high : screen.height ≠ 0)
    : screen.contains ⟨0, 0⟩ = true := by
  simp [contains, UInt64.pos_iff_ne_zero, wide, high]

namespace VirtualScreen

-----------------------------------------------------------------------------------------
-- Calls
-----------------------------------------------------------------------------------------

/-- A call of a screen: input, the question where the pointer is, or whether a point lies on it. -/
inductive Call
  | input (dispatch : Dispatch)
  | locate
  | inspect (point : Point)
deriving DecidableEq

/-- The dispatch that a call sends. -/
def Call.dispatch? : Call → Option Dispatch
  | .input dispatch => some dispatch
  | _ => none

/-- What a call gives back when it succeeds. -/
inductive Answer
  | taken
  | pointer (place : Point)
  | lies (inside : Bool)
deriving DecidableEq

/-- Answers a call, beside the screen behind it. -/
def answer (device : VirtualScreen) : Call → Except BackendError Answer × VirtualScreen
  | .input dispatch =>
      match device.send dispatch with
      | (none, after) => (.ok .taken, after)
      | (some error, after) => (.error error, after)
  | .locate => (device.pointer?.map .pointer, device)
  | .inspect point => (.ok (.lies (device.screen.contains point)), device)

/-- The size of a screen does not change with what is sent to it. -/
@[simp] theorem send_screen (dispatch : Dispatch) (device : VirtualScreen)
    : (device.send dispatch).2.screen = device.screen := by
  rw [send]
  split <;> rfl

/-- A screen stays online or offline whatever is sent to it. -/
@[simp] theorem send_offline (dispatch : Dispatch) (device : VirtualScreen)
    : (device.send dispatch).2.offline = device.offline := by
  rw [send]
  split <;> rfl

/-- A dispatch is refused by an offline screen, and by any other if it moves off the screen. -/
theorem refusal?_isSome_iff (device : VirtualScreen) (dispatch : Dispatch)
    : (device.refusal? dispatch).isSome = true
      ↔ device.offline = true
        ∨ ∃ target, dispatch = .move target ∧ device.screen.contains target = false := by
  cases isOffline : device.offline with
  | true => simp [refusal?, isOffline]
  | false =>
      cases dispatch with
      | move target =>
          cases inside : device.screen.contains target <;> simp [refusal?, isOffline, inside]
      | click | text | keys => simp [refusal?, isOffline]

/-- A dispatch is refused with nothing changed, or taken onto the record. -/
theorem send_cases (dispatch : Dispatch) (device : VirtualScreen)
    : (∃ error,
        device.refusal? dispatch = some error ∧ device.send dispatch = (some error, device))
      ∨ (device.refusal? dispatch = none
        ∧ device.send dispatch
          = (none, { device with
              pointer := dispatch.target?.getD device.pointer
              record := dispatch :: device.record })) := by
  rw [send]
  cases refused : device.refusal? dispatch with
  | some error => exact .inl ⟨error, rfl, rfl⟩
  | none => cases dispatch <;> exact .inr ⟨rfl, rfl⟩

/-- A call fails on an offline screen, unless it inspects a point, and also if it is a move off the
screen.
-/
theorem answer_fails_iff (device : VirtualScreen) (call : Call)
    : (∃ error, (device.answer call).1 = .error error)
      ↔ (device.offline = true ∧ ∀ point, call ≠ .inspect point)
        ∨ ∃ target, call = .input (.move target) ∧ device.screen.contains target = false := by
  cases call with
  | input dispatch =>
      have refused := device.refusal?_isSome_iff dispatch
      rcases device.send_cases dispatch with ⟨error, fails, sent⟩ | ⟨taken, sent⟩
      · simpa [answer, fails, sent] using refused
      · simpa [answer, taken, sent] using refused
  | locate => cases isOffline : device.offline <;> simp [answer, pointer?, isOffline, Except.map]
  | inspect point => simp [answer]

/-- A call that fails changes nothing. -/
theorem answer_failed {device : VirtualScreen} {call : Call} {error : BackendError}
    (fails : (device.answer call).1 = .error error)
    : (device.answer call).2 = device := by
  cases call with
  | input dispatch =>
      rcases device.send_cases dispatch with ⟨error, -, sent⟩ | ⟨-, sent⟩
      · simp [answer, sent]
      · simp [answer, sent] at fails
  | locate => rfl
  | inspect point => rfl

/-- A call that succeeds records the input that it sends, behind all input before, and nothing else.
-/
theorem answer_succeeded {device : VirtualScreen} {call : Call} {answered : Answer}
    (succeeds : (device.answer call).1 = .ok answered)
    : (device.answer call).2.dispatches = device.dispatches ++ call.dispatch?.toList := by
  cases call with
  | input dispatch =>
      rcases device.send_cases dispatch with ⟨error, -, sent⟩ | ⟨-, sent⟩
      · simp [answer, sent] at succeeds
      · simp [answer, sent, dispatches, Call.dispatch?]
  | locate => exact (List.append_nil _).symm
  | inspect point => exact (List.append_nil _).symm

-----------------------------------------------------------------------------------------
-- Uses
-----------------------------------------------------------------------------------------

/-- What can be done with a screen: a call, or a switch that takes it offline or online. -/
inductive Use
  | call (call : Call)
  | switch (offline : Bool)

/-- The screen behind a use. -/
def use (device : VirtualScreen) : Use → VirtualScreen
  | .call call => (device.answer call).2
  | .switch offline => { device with offline := offline }

/-- The screen behind some uses, one after the other. -/
def useAll (device : VirtualScreen) (uses : List Use) : VirtualScreen := uses.foldl use device

/-- Uses lead from screen to screen one behind the other. -/
theorem useAll_append (device : VirtualScreen) (first more : List Use)
    : device.useAll (first ++ more) = (device.useAll first).useAll more :=
  List.foldl_append ..

/-- Input changes the screen as sending it does. -/
@[simp] theorem answer_input (device : VirtualScreen) (dispatch : Dispatch)
    : (device.answer (.input dispatch)).2 = (device.send dispatch).2 := by
  rw [answer]
  split <;> simp_all

/-- The size of a screen does not change with its use. -/
@[simp] theorem use_screen (device : VirtualScreen) (use : Use)
    : (device.use use).screen = device.screen := by
  cases use with
  | call call =>
      cases call with
      | input dispatch => rw [VirtualScreen.use, answer_input, send_screen]
      | locate => rfl
      | inspect point => rfl
  | switch offline => rfl

/-- A screen has some size, its pointer is where the last move on record leads, in the corner if
there is none, and every move on record stays on the screen.
-/
structure Truthful (screen : Screen) (device : VirtualScreen) : Prop where
  size : device.screen = screen
  pointer : device.pointer = (lastTarget? device.dispatches).getD ⟨0, 0⟩
  onScreen : ∀ target, .move target ∈ device.dispatches → screen.contains target = true

/-- A screen that tells the truth still does so behind an input, accepted or refused. -/
theorem Truthful.send {screen : Screen} {device : VirtualScreen}
    (truthful : device.Truthful screen) (dispatch : Dispatch)
    : (device.send dispatch).2.Truthful screen := by
  obtain ⟨rfl, pointer, onScreen⟩ := truthful
  have refused := device.refusal?_isSome_iff dispatch
  rcases device.send_cases dispatch with ⟨error, -, sent⟩ | ⟨taken, sent⟩
  · rw [sent]
    exact ⟨rfl, pointer, onScreen⟩
  · rw [taken] at refused
    rw [sent]
    refine ⟨rfl, ?_, ?_⟩
    · simp only [dispatches, List.reverse_cons, lastTarget?_concat] at pointer ⊢
      cases dispatch.target? with
      | none => exact pointer
      | some target => rfl
    · intro target member
      simp only [dispatches, List.reverse_cons, List.mem_append, List.mem_singleton] at member
      rcases member with earlier | rfl
      · exact onScreen target (by simpa [dispatches] using earlier)
      · cases inside : device.screen.contains target with
        | true => rfl
        | false => simpa using refused.mpr (.inr ⟨target, rfl, inside⟩)

/-- A screen that tells the truth still does so behind a use: only input changes what it tells. -/
theorem Truthful.use {screen : Screen} {device : VirtualScreen}
    (truthful : device.Truthful screen) (use : Use)
    : (device.use use).Truthful screen := by
  cases use with
  | call call =>
      cases call with
      | input dispatch =>
          rw [VirtualScreen.use, answer_input]
          exact truthful.send dispatch
      | locate => exact truthful
      | inspect point => exact truthful
  | switch offline => exact ⟨truthful.size, truthful.pointer, truthful.onScreen⟩

/-- Whatever a screen is used for, it stays truthful. -/
theorem Truthful.useAll {screen : Screen} {device : VirtualScreen}
    (truthful : device.Truthful screen) (uses : List Use)
    : (device.useAll uses).Truthful screen := by
  induction uses generalizing device with
  | nil => exact truthful
  | cons first rest ih => exact ih (truthful.use first)

/-- A blank screen tells the truth: nothing was sent, and the pointer is at the origin. -/
theorem truthful_blank (screen : Screen) : (blank screen).Truthful screen :=
  ⟨rfl, rfl, fun _ member => absurd member List.not_mem_nil⟩

/-- The pointer of a truthful screen that is not empty is on the screen. -/
theorem Truthful.pointer_onScreen {screen : Screen} {device : VirtualScreen}
    (truthful : device.Truthful screen) (wide : screen.width ≠ 0) (high : screen.height ≠ 0)
    : screen.contains device.pointer = true := by
  rw [truthful.pointer]
  cases last : lastTarget? device.dispatches with
  | none => exact Screen.contains_corner wide high
  | some target =>
      obtain ⟨dispatch, sent, isTarget⟩ := List.mem_filterMap.mp (List.mem_of_getLast? last)
      cases dispatch with
      | move other =>
          obtain rfl := Option.some.inj isTarget
          exact truthful.onScreen other sent
      | click | text | keys => simp [Dispatch.target?] at isTarget

-----------------------------------------------------------------------------------------
-- Screens that uses lead to
-----------------------------------------------------------------------------------------

/-- Some uses lead from one screen to another. -/
def Reaches (device after : VirtualScreen) : Prop := ∃ uses, after = device.useAll uses

theorem Reaches.refl (device : VirtualScreen) : device.Reaches device := ⟨[], rfl⟩

/-- Uses that lead on lead from the first screen to the last. -/
theorem Reaches.trans {first second third : VirtualScreen} (earlier : first.Reaches second)
    (later : second.Reaches third)
    : first.Reaches third := by
  obtain ⟨uses, rfl⟩ := earlier
  obtain ⟨more, rfl⟩ := later
  exact ⟨uses ++ more, (useAll_append ..).symm⟩

/-- Switching a screen on or off is a use. -/
theorem reaches_switch (device : VirtualScreen) (offline : Bool)
    : device.Reaches { device with offline := offline } :=
  ⟨[.switch offline], rfl⟩

/-- Sending input is a use. -/
theorem reaches_send (device : VirtualScreen) (dispatch : Dispatch)
    : device.Reaches (device.send dispatch).2 :=
  ⟨[.call (.input dispatch)], (answer_input ..).symm⟩

/-- A screen that uses lead to has the same size, by induction over these. -/
theorem Reaches.screen {device after : VirtualScreen} (reaches : device.Reaches after)
    : after.screen = device.screen := by
  obtain ⟨uses, rfl⟩ := reaches
  induction uses generalizing device with
  | nil => rfl
  | cons first rest ih =>
      have kept : ((device.use first).useAll rest).screen = (device.use first).screen := ih
      exact kept.trans (use_screen ..)

end VirtualScreen

namespace FailingScreen

/-- A screen that goes offline when no calls are left is switched off. -/
theorem reaches_settle (screen : FailingScreen)
    : screen.device.Reaches screen.settle.device := by
  rw [settle]
  split
  · exact screen.device.reaches_switch true
  · exact .refl _

/-- A call to a screen with limited calls is a use, and switches it off if it was the last one. -/
theorem reaches_send (screen : FailingScreen) (dispatch : Dispatch)
    : screen.device.Reaches (screen.send dispatch).2.device :=
  (screen.device.reaches_send dispatch).trans (reaches_settle _)

end FailingScreen

end DesktopAutomation
