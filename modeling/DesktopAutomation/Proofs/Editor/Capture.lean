import DesktopAutomation.Proofs.Editor.Admission
import DesktopAutomation.Proofs.Run.Relation

/-! The screen of a session. Whatever is done with a session, its screen comes about by calls and
switches alone; so the pointer that is captured is on the screen, and the step made from it is not
refused for its place.
-/

namespace DesktopAutomation.EditorSession

-----------------------------------------------------------------------------------------
-- Operations as uses of the screen
-----------------------------------------------------------------------------------------

theorem settled_reaches {session : EditorSession}
    {attempt : Except AutomationError EditorSession}
    (reaches : ∀ after, attempt = .ok after → session.device.Reaches after.device)
    : session.device.Reaches (session.settled attempt).device := by
  cases attempt with
  | error _ => exact .refl session.device
  | ok after => exact reaches after rfl

theorem add_device {session after : EditorSession} {step : Step} {parent : Option StepId}
    (accepted : session.add step parent = .ok after)
    : after.device = session.device := by
  obtain ⟨_, _, _, _, rfl⟩ := add_eq_ok accepted
  rfl

/-- What is made of the result of an attempt is there if the attempt succeeds. -/
theorem result_of_map {α β : Type} {attempt : Except AutomationError α} {make : α → β} {made : β}
    (succeeds : attempt.map make = .ok made)
    : ∃ result, attempt = .ok result ∧ make result = made := by
  cases attempt with
  | error _ => simp [Except.map] at succeeds
  | ok result => exact ⟨result, rfl, Except.ok.inj succeeds⟩

/-- All that an operation does with the screen is to use it. -/
theorem perform_reaches (session : EditorSession) (operation : Operation)
    : session.device.Reaches (session.perform operation).device := by
  cases operation with
  | add step parent => exact settled_reaches fun _ accepted => add_device accepted ▸ .refl _
  | edit id step =>
      refine settled_reaches fun after accepted => ?_
      obtain ⟨_, _, _, _, _, rfl⟩ := edit_eq_ok accepted
      exact .refl session.device
  | remove id =>
      refine settled_reaches fun after accepted => ?_
      obtain ⟨⟨taken, left⟩, removal, rfl⟩ := result_of_map accepted
      obtain ⟨_, _, rfl⟩ := remove_eq_ok removal
      exact .refl session.device
  | reorder source destination container =>
      rw [perform]
      cases moved : session.reorder? source destination container with
      | none => exact .refl session.device
      | some after =>
          obtain ⟨_, _, rfl⟩ := reorder?_eq_some moved
          exact .refl session.device
  | clear container =>
      refine settled_reaches fun after accepted => ?_
      obtain ⟨⟨taken, left⟩, clearing, rfl⟩ := result_of_map accepted
      obtain ⟨_, _, rfl⟩ := clear_eq_ok clearing
      exact .refl session.device
  | capture => exact .refl session.device
  | addCaptured parent =>
      refine settled_reaches fun after accepted => ?_
      cases captured : session.captureMove with
      | error _ => simp [captured, Except.bind] at accepted
      | ok step =>
          have added : session.add step parent = .ok after := by
            simpa [captured, Except.bind] using accepted
          exact add_device added ▸ .refl _
  | run controls offlineAfter => exact Run.playOn_reaches ..
  | send dispatch =>
      refine settled_reaches fun after accepted => ?_
      have reaches := session.device.reaches_send dispatch
      rw [send] at accepted
      split at accepted
      · next device sent =>
          obtain rfl := Except.ok.inj accepted
          rwa [sent] at reaches
      · simp at accepted
  | switchOffline offline => exact session.device.reaches_switch offline

theorem performAll_reaches (session : EditorSession) (operations : List Operation)
    : session.device.Reaches (session.performAll operations).device := by
  induction operations generalizing session with
  | nil => exact .refl session.device
  | cons operation rest ih => exact (session.perform_reaches operation).trans (ih _)

-----------------------------------------------------------------------------------------
-- Why a step is not added
-----------------------------------------------------------------------------------------

/-- New steps conflict by an id or by a name. -/
theorem newcomerConflict?_eq_some {tree : StepTree} {seen : List StepId}
    {owners : List (String × StepId)} {incoming : List Step} {conflict : ConflictError}
    (conflicts : newcomerConflict? tree seen owners incoming = some conflict)
    : (∃ id, conflict = .stepIdTaken id) ∨ ∃ name owner, conflict = .variableOwned name owner := by
  induction incoming generalizing seen owners with
  | nil => cases conflicts
  | cons step rest ih =>
      rw [newcomerConflict?] at conflicts
      split at conflicts
      · exact .inl ⟨_, (Option.some.inj conflicts).symm⟩
      · split at conflicts
        · exact ih conflicts
        · split at conflicts
          · exact .inr ⟨_, _, (Option.some.inj conflicts).symm⟩
          · exact ih conflicts

theorem containerRefusal?_eq_some {tree : StepTree} {container : Option StepId}
    {refusal : AutomationError} (refuses : containerRefusal? tree container = some refusal)
    : ∃ id, refusal = .notFound (.step id) ∨ refusal = .conflict (.notAContainer id) := by
  cases container with
  | none => cases refuses
  | some id =>
      rw [containerRefusal?] at refuses
      split at refuses
      · exact ⟨id, .inl (Option.some.inj refuses).symm⟩
      · split at refuses
        · cases refuses
        · exact ⟨id, .inr (Option.some.inj refuses).symm⟩

/-- A step conflicts by a name that it declares, or as a move off the screen. -/
theorem stepConflict?_eq_some {session : EditorSession} {step : Step} {conflict : ConflictError}
    (conflicts : session.stepConflict? step = some conflict)
    : (∃ name owner, conflict = .variableOwned name owner)
      ∨ (∃ target, conflict = .pointerOutOfBounds target) ∧ ¬session.StaysOnScreen step := by
  rcases Option.or_eq_some_iff.mp conflicts with owned | ⟨-, strays⟩
  · obtain ⟨name, -, owned⟩ := Option.bind_eq_some_iff.mp owned
    obtain ⟨existing, -, owned⟩ := Option.bind_eq_some_iff.mp owned
    split at owned
    · cases owned
    · exact .inl ⟨_, _, (Option.some.inj owned).symm⟩
  · refine .inr ⟨?_, fun stays => ?_⟩
    · obtain ⟨target, -, strays⟩ := Option.bind_eq_some_iff.mp strays
      split at strays
      · cases strays
      · exact ⟨target, (Option.some.inj strays).symm⟩
    · rw [(pointerConflict?_eq_none_iff ..).mpr stays] at strays
      cases strays

/-- A step is not added for a conflict of the new steps, for its place, or for a conflict of one of
them with the session.
-/
theorem add_eq_error {session : EditorSession} {step : Step} {parent : Option StepId}
    {error : AutomationError} (refused : session.add step parent = .error error)
    : (∃ conflict,
        newcomerConflict? session.steps [] [] (walk [step]) = some conflict
        ∧ error = .conflict conflict)
      ∨ containerRefusal? session.steps parent = some error
      ∨ ∃ new ∈ walk [step], ∃ conflict,
          session.stepConflict? new = some conflict ∧ error = .conflict conflict := by
  rw [add] at refused
  split at refused
  · next conflict isConflict =>
      exact .inl ⟨conflict, isConflict, (Except.error.inj refused).symm⟩
  · split at refused
    · next refusal isRefusal =>
        exact .inr (.inl (Except.error.inj refused ▸ isRefusal))
    · split at refused
      · next conflict isConflict =>
          obtain ⟨new, member, isConflict⟩ := List.exists_of_findSome?_eq_some isConflict
          exact .inr (.inr ⟨new, member, conflict, isConflict, (Except.error.inj refused).symm⟩)
      · cases refused

/-- Steps whose moves stay on the screen are not refused for leaving it. -/
theorem add_ne_outOfBounds {session : EditorSession} {step : Step} (parent : Option StepId)
    (stays : ∀ new ∈ walk [step], session.StaysOnScreen new) (target : Point)
    : session.add step parent ≠ .error (.conflict (.pointerOutOfBounds target)) := by
  intro refused
  rcases add_eq_error refused with
    ⟨conflict, newcomers, same⟩ | refusal | ⟨new, member, conflict, conflicts, same⟩
  · obtain rfl := AutomationError.conflict.inj same
    rcases newcomerConflict?_eq_some newcomers with ⟨_, other⟩ | ⟨_, _, other⟩ <;> cases other
  · obtain ⟨_, other | other⟩ := containerRefusal?_eq_some refusal <;> cases other
  · obtain rfl := AutomationError.conflict.inj same
    rcases stepConflict?_eq_some conflicts with ⟨_, _, other⟩ | ⟨_, strays⟩
    · cases other
    · exact strays (stays new member)

-----------------------------------------------------------------------------------------
-- Capturing the pointer
-----------------------------------------------------------------------------------------

theorem captureMove_of_online {session : EditorSession} (online : session.device.offline = false)
    : session.captureMove = .ok (.action session.nextId (.move session.device.pointer)) := by
  simp [captureMove, VirtualScreen.pointer?, online]

/-- Whatever calls and switches a virtual screen went through, its pointer is where the last move on
record leads, and every move on record stayed on the screen. A call fails if and only if the screen
is offline and asked for more than a look at a point, or if the call moves off the screen. It then
changes nothing; a call that succeeds appends what it sends. All of this goes on while a session
with this screen is worked on, and so the move that is captured from a screen that is online and not
empty leads to a place on it, and is not refused for leaving the screen.
-/
theorem captureMove_onScreen (screen : Screen) (uses : List VirtualScreen.Use)
    : let device := (VirtualScreen.blank screen).useAll uses
      device.pointer = (lastTarget? device.dispatches).getD ⟨0, 0⟩
      ∧ (∀ target, .move target ∈ device.dispatches → screen.contains target = true)
      ∧ (∀ call,
          ((∃ error, (device.answer call).1 = .error error)
            ↔ (device.offline = true ∧ ∀ point, call ≠ .inspect point)
              ∨ ∃ target, call = .input (.move target) ∧ screen.contains target = false)
          ∧ (∀ error, (device.answer call).1 = .error error → (device.answer call).2 = device)
          ∧ ∀ answered,
              (device.answer call).1 = .ok answered
              → (device.answer call).2.dispatches
                = device.dispatches ++ call.dispatch?.toList)
      ∧ ∀ session : EditorSession,
          session.device = device
          → ∀ operations,
              let after := session.performAll operations
              (∃ more, after.device = (VirtualScreen.blank screen).useAll (uses ++ more))
              ∧ (screen.width ≠ 0
                → screen.height ≠ 0
                → after.device.offline = false
                → ∃ target,
                    screen.contains target = true
                    ∧ after.captureMove = .ok (.action after.nextId (.move target))
                    ∧ ∀ parent place,
                        after.add (.action after.nextId (.move target)) parent
                        ≠ .error (.conflict (.pointerOutOfBounds place))) := by
  intro device
  obtain ⟨size, pointer, onScreen⟩ := (VirtualScreen.truthful_blank screen).useAll uses
  refine ⟨pointer, onScreen, fun call => ⟨?_, ?_, ?_⟩, ?_⟩
  · rw [← size]
    exact device.answer_fails_iff call
  · exact fun error => VirtualScreen.answer_failed
  · exact fun answered => VirtualScreen.answer_succeeded
  · intro session opened operations after
    have reaches : session.device.Reaches after.device := performAll_reaches session operations
    obtain ⟨more, reached⟩ := reaches
    have inAll : after.device = (VirtualScreen.blank screen).useAll (uses ++ more) := by
      rw [reached, opened, VirtualScreen.useAll_append]
    refine ⟨⟨more, inAll⟩, fun wide high online => ?_⟩
    have truthful : after.device.Truthful screen :=
      inAll ▸ (VirtualScreen.truthful_blank screen).useAll (uses ++ more)
    have inside := truthful.pointer_onScreen wide high
    refine ⟨after.device.pointer, inside, captureMove_of_online online, fun parent => ?_⟩
    refine add_ne_outOfBounds parent fun new member target isTarget => ?_
    rw [walk_eq_listingOf, listingOf_action] at member
    obtain rfl := List.mem_singleton.mp member
    obtain rfl := Option.some.inj isTarget
    rwa [truthful.size]

/-- A move off the screen and input to a screen that is offline leave no trace; then a session runs
a move of its own, and captures where this leads.
-/
theorem captureMove_onScreen_afterRun
    : let uses : List VirtualScreen.Use :=
        [.call (.input (.move ⟨5, 6⟩)), .call (.input (.move ⟨1920, 0⟩)), .switch true,
          .call (.input (.click .left)), .call .locate, .switch false]
      let device := (VirtualScreen.blank .standard).useAll uses
      let session : EditorSession :=
        ⟨⟨[.action ⟨1⟩ (.move ⟨7, 8⟩)]⟩, .empty, none, device⟩
      let operations : List Operation := [.run (.steady 0) (some 3)]
      let after := session.performAll operations
      device.dispatches = [.move ⟨5, 6⟩]
      ∧ device.pointer = ⟨5, 6⟩
      ∧ (∃ error, (device.answer (.input (.move ⟨0, 1080⟩))).1 = .error error)
      ∧ (∃ more, after.device = (VirtualScreen.blank .standard).useAll (uses ++ more))
      ∧ after.captureMove = .ok (.action ⟨2⟩ (.move ⟨7, 8⟩))
      ∧ ∀ parent place,
          after.add (.action ⟨2⟩ (.move ⟨7, 8⟩)) parent
          ≠ .error (.conflict (.pointerOutOfBounds place)) := by
  intro uses device session operations after
  obtain ⟨pointer, -, calls, sessions⟩ := captureMove_onScreen .standard uses
  have sent : device.dispatches = [.move ⟨5, 6⟩] := by decide +kernel
  have fails := (calls (.input (.move ⟨0, 1080⟩))).1.mpr
    (.inr ⟨⟨0, 1080⟩, rfl, by decide +kernel⟩)
  obtain ⟨reached, captures⟩ := sessions session rfl operations
  have online : after.device.offline = false := by decide +kernel
  obtain ⟨target, -, captured, accepts⟩ := captures (by decide) (by decide) online
  have isNext : after.nextId = ⟨2⟩ := by decide +kernel
  have behindRun : after.device.pointer = ⟨7, 8⟩ := by decide +kernel
  have expected := captureMove_of_online online
  rw [isNext, behindRun] at expected
  rw [isNext] at captured accepts
  obtain rfl : target = ⟨7, 8⟩ := by simpa using captured.symm.trans expected
  refine ⟨sent, ?_, fails, reached, captured, accepts⟩
  rw [pointer, sent]
  rfl

end DesktopAutomation.EditorSession
