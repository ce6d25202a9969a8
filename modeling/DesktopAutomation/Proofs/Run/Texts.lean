import DesktopAutomation.Proofs.Environment.Shadows
import DesktopAutomation.Proofs.Text.Split
import DesktopAutomation.Proofs.Text.Trimming
import DesktopAutomation.Run.Basic
import Mathlib.Data.List.Chain

/-! What steps do with texts. A text is typed line by line, with the Enter key for each line feed;
only the carriage returns at the ends of its lines are left out. A text that is cut is stored as its
pieces, which the divider joins to the text again.
-/

namespace DesktopAutomation.Run
open Deed

-----------------------------------------------------------------------------------------
-- Ends of lines
-----------------------------------------------------------------------------------------

/-- Nothing but carriage returns stands before the next line feed or before the end. -/
def endsLine : List Char → Bool
  | [] => true
  | c :: rest => c == '\n' || (c == '\r' && endsLine rest)

/-- A text without the carriage returns at the ends of its lines. -/
def withoutReturns : List Char → List Char
  | [] => []
  | c :: rest =>
    if c = '\r' ∧ endsLine rest = true then withoutReturns rest else c :: withoutReturns rest

theorem endsLine_append {line behind : List Char} (single : '\n' ∉ line)
    (ended : endsLine behind = true)
    : endsLine (line ++ behind) = true ↔ Text.trimEnd (· == '\r') line = [] := by
  induction line with
  | nil => exact iff_of_true ended rfl
  | cons c rest ih =>
      rw [List.mem_cons, not_or] at single
      simp only [List.cons_append, endsLine, Text.trimEnd_cons, Bool.or_eq_true, Bool.and_eq_true,
        ih single.2, beq_iff_eq, Ne.symm single.1, false_or]
      by_cases dropped : Text.trimEnd (· == '\r') rest = [] ∧ c = '\r'
      · simp [dropped]
      · rw [if_neg dropped]
        simpa [and_comm] using dropped

/-- A line is left as it is when it is trimmed at its end, whatever follows it. -/
theorem withoutReturns_append {line behind : List Char} (single : '\n' ∉ line)
    (ended : endsLine behind = true)
    : withoutReturns (line ++ behind)
      = Text.trimEnd (· == '\r') line ++ withoutReturns behind := by
  induction line with
  | nil => rfl
  | cons c rest ih =>
      rw [List.mem_cons, not_or] at single
      simp only [List.cons_append, withoutReturns, endsLine_append single.2 ended, ih single.2,
        Text.trimEnd_cons, beq_iff_eq]
      by_cases dropped : Text.trimEnd (· == '\r') rest = [] ∧ c = '\r'
      · simp [dropped]
      · rw [if_neg dropped, if_neg (dropped ∘ And.symm), List.cons_append]

theorem withoutReturns_line {line : List Char} (single : '\n' ∉ line)
    : withoutReturns line = Text.trimEnd (· == '\r') line := by
  rw [← List.append_nil line, withoutReturns_append single rfl, withoutReturns, List.append_nil,
    List.append_nil]

theorem length_withoutReturns_le (text : List Char)
    : (withoutReturns text).length ≤ text.length := by
  induction text with
  | nil => exact Nat.le_refl 0
  | cons c rest ih =>
      rw [withoutReturns]
      split
      · exact Nat.le_succ_of_le ih
      · exact Nat.succ_le_succ ih

/-- A carriage return at the end of a line stands before a line feed, or else one is the last. -/
theorem return_of_endsLine {rest : List Char} (ends : endsLine rest = true)
    : ['\r', '\n'] <:+: '\r' :: rest ∨ ('\r' :: rest).getLast? = some '\r' := by
  induction rest with
  | nil => exact .inr rfl
  | cons c rest ih =>
      simp only [endsLine, Bool.or_eq_true, Bool.and_eq_true, beq_iff_eq] at ends
      rcases ends with rfl | ⟨rfl, ends⟩
      · exact .inl (List.prefix_append ['\r', '\n'] rest).isInfix
      · rw [List.getLast?_cons_cons]
        exact (ih ends).imp_left (List.infix_cons ·)

/-- A text is left as it is exactly if no line of it ends with a carriage return. -/
theorem withoutReturns_eq_self_iff (text : List Char)
    : withoutReturns text = text
      ↔ ¬['\r', '\n'] <:+: text ∧ text.getLast? ≠ some '\r' := by
  induction text with
  | nil => simp [withoutReturns]
  | cons c rest ih =>
      have shorter : withoutReturns rest ≠ c :: rest := fun same => by
        have short := length_withoutReturns_le rest
        rw [same, List.length_cons] at short
        omega
      rw [withoutReturns]
      split
      · next isReturn =>
          obtain ⟨rfl, ends⟩ := isReturn
          refine iff_of_false shorter fun none => ?_
          exact (return_of_endsLine ends).elim none.1 none.2
      · next notReturn =>
          rw [List.cons_inj_right, ih, List.infix_cons_iff, not_or, List.cons_prefix_cons]
          cases rest with
          | nil => simpa [endsLine] using fun isReturn => notReturn ⟨isReturn, rfl⟩
          | cons next behind =>
              have notHere : ¬('\r' = c ∧ ['\n'] <+: next :: behind) := by
                rintro ⟨rfl, feed⟩
                obtain rfl := (List.cons_prefix_cons.mp feed).1
                exact notReturn ⟨rfl, rfl⟩
              simp only [notHere, not_false_eq_true, true_and, List.getLast?_cons_cons]

-----------------------------------------------------------------------------------------
-- Calls that type
-----------------------------------------------------------------------------------------

/-- The call that presses the Enter key alone. -/
def pressEnter : Dispatch := .keys .enter false

/-- What a call writes: its text, or a line feed for a key. -/
def written : Dispatch → List Char
  | .text line => line.toList
  | .keys .. => ['\n']
  | _ => []

/-- The call sends a text of one line, which does not end with a carriage return. -/
def SendsLine (call : Dispatch) : Prop :=
  ∃ line : String,
    call = .text line ∧ line ≠ "" ∧ '\n' ∉ line.toList ∧ line.toList.getLast? ≠ some '\r'

/-- The calls send lines and press the Enter key, so that they write a text but for the carriage
returns at the ends of its lines. No two lines are sent without the Enter key between them.
-/
structure Types (text : List Char) (calls : List Dispatch) : Prop where
  kinds : ∀ call ∈ calls, call = pressEnter ∨ SendsLine call
  spaced : calls.IsChain fun call next => call = pressEnter ∨ next = pressEnter
  enters : calls.count pressEnter = text.count '\n'
  written : calls.flatMap written = withoutReturns text

theorem types_line {line : String} (single : '\n' ∉ line.toList)
    : Types line.toList (typeLine line) := by
  have trimmed := withoutReturns_line single
  have noFeed : line.toList.count '\n' = 0 := List.count_eq_zero.mpr single
  rw [typeLine]
  split
  · next isEmpty =>
      exact ⟨by simp, .nil, noFeed.symm, by rw [trimmed, isEmpty, List.flatMap_nil]⟩
  · next isSome =>
      generalize isShown : Text.trimEnd (· == '\r') line.toList = shown at trimmed isSome ⊢
      have sends : SendsLine (.text (String.ofList shown)) := by
        refine ⟨_, rfl, fun isEmpty => isSome (String.ofList_eq_empty_iff.mp isEmpty), ?_, ?_⟩
        · rw [String.toList_ofList]
          exact fun feed => single ((isShown ▸ Text.trimEnd_start _ _).mem feed)
        · rw [String.toList_ofList, ← isShown]
          exact fun isReturn => absurd (Text.getLast?_trimEnd isReturn) (by decide)
      refine ⟨by simpa using .inr sends, .singleton _, ?_, ?_⟩
      · rw [noFeed, List.count_eq_zero]
        simp [pressEnter]
      · rw [trimmed, List.flatMap_singleton, Run.written, String.toList_ofList]

/-- A line is typed before a text by typing it, pressing the Enter key and typing the text. -/
theorem Types.behindLine {line : String} (single : '\n' ∉ line.toList) {text : List Char}
    {calls : List Dispatch} (types : Types text calls)
    : Types (line.toList ++ '\n' :: text) (typeLine line ++ pressEnter :: calls) := by
  have first := types_line single
  have trimmed := withoutReturns_line single
  constructor
  · rw [List.forall_mem_append, List.forall_mem_cons]
    exact ⟨first.kinds, .inl rfl, types.kinds⟩
  · refine first.spaced.append (List.isChain_cons.mpr ⟨fun _ _ => .inl rfl, types.spaced⟩) ?_
    rintro call - next isNext
    exact .inr (Option.some.inj isNext).symm
  · rw [List.count_append, List.count_append, List.count_cons_self, List.count_cons_self,
      first.enters, types.enters]
  · rw [List.flatMap_append, List.flatMap_cons, first.written, types.written, trimmed,
      withoutReturns_append single rfl]
    rfl

theorem types_lines (first : String) (rest : List String)
    (single : ∀ line ∈ first :: rest, '\n' ∉ line.toList)
    : Types (['\n'].intercalate ((first :: rest).map String.toList))
        (typeLine first ++ rest.flatMap fun line => pressEnter :: typeLine line) := by
  induction rest generalizing first with
  | nil =>
      rw [List.flatMap_nil, List.append_nil, List.map_singleton, List.intercalate_singleton]
      exact types_line (single first List.mem_cons_self)
  | cons second rest ih =>
      obtain ⟨firstSingle, others⟩ := List.forall_mem_cons.mp single
      have types := (ih second others).behindLine firstSingle
      rw [List.map_cons, List.map_cons, List.intercalate_cons_cons, ← List.map_cons,
        List.append_assoc]
      exact types

/-- The calls that type a text: its lines hold no line feed and are joined to it by line feeds. -/
theorem types_typing (text : String) : Types text.toList (typing text) := by
  obtain ⟨isSome, joined, apart, -, -⟩ := Text.split_separates (by decide : "\n" ≠ "") text
  rw [typing, Text.lines]
  cases lines : Text.split text "\n" with
  | nil => simp [lines] at isSome
  | cons first rest =>
      rw [lines] at joined apart
      rw [← joined]
      refine types_lines first rest fun line isLine feed => ?_
      exact apart _ (List.mem_map_of_mem isLine) ((List.singleton_infix_iff _ _).mpr feed)

-----------------------------------------------------------------------------------------
-- Steps
-----------------------------------------------------------------------------------------

section Steps
variable {σ : Type}

/-- A backend that is ready carries out the calls that type, and stays ready. -/
def CarriesOut (backend : InputBackend σ) (ready : σ → Prop) : Prop :=
  ∀ device call,
    ready device
    → call = pressEnter ∨ SendsLine call
    → (backend.send call device).1 = none ∧ ready (backend.send call device).2

/-- The device behind some calls. -/
def deviceBehind (backend : InputBackend σ) (calls : List Dispatch) (device : σ) : σ :=
  calls.foldl (fun device call => (backend.send call device).2) device

theorem forEach_send {backend : InputBackend σ} {ready : σ → Prop}
    (carries : CarriesOut backend ready) (id : StepId) {calls : List Dispatch}
    (kinds : ∀ call ∈ calls, call = pressEnter ∨ SendsLine call) {world : World σ}
    (isReady : ready world.device)
    : forEach (send backend id) calls world
      = (none, { world with
          device := deviceBehind backend calls world.device
          history := (calls.map Event.called).reverse ++ world.history }) := by
  induction calls generalizing world with
  | nil => rfl
  | cons call rest ih =>
      obtain ⟨isTyping, others⟩ := List.forall_mem_cons.mp kinds
      obtain ⟨succeeds, staysReady⟩ := carries world.device call isReady isTyping
      let behind : World σ := { world with
        device := (backend.send call world.device).2
        history := .called call :: world.history }
      have sent : send backend id call world = (none, behind) := by
        change ((backend.send call world.device).1.map _, _) = _
        rw [succeeds]
        rfl
      have further := @ih others behind staysReady
      simp only [forEach, andThen, sent, further]
      rw [List.map_cons, List.reverse_cons, List.append_assoc]
      rfl

/-- A step that types a text, on a backend that carries out its calls, makes calls that type exactly
this text, in order, and changes nothing else. They write the text itself if and only if none of its
lines ends with a carriage return.
-/
theorem runStep_write_types {backend : InputBackend σ} {ready : σ → Prop}
    (carries : CarriesOut backend ready) (controls : Controls) (id : StepId)
    (text readFrom : String) {world : World σ} (isReady : ready world.device) {typed : String}
    (reads : readInput id text readFrom world.environment = .ok typed)
    : let calls := typing typed
      runStep backend controls (.action id (.write text readFrom)) world
        = (none, { world with
            device := deviceBehind backend calls world.device
            history := (calls.map Event.called).reverse ++ world.history })
      ∧ Types typed.toList calls
      ∧ (calls.flatMap written = typed.toList
        ↔ ¬['\r', '\n'] <:+: typed.toList ∧ typed.toList.getLast? ≠ some '\r') := by
  intro calls
  have types : Types typed.toList calls := types_typing typed
  refine ⟨?_, types, ?_⟩
  · rw [runStep, runAction, reading, reads]
    exact forEach_send carries id types.kinds isReady
  · rw [types.written]
    exact withoutReturns_eq_self_iff typed.toList

/-- Lines that are empty or hold only a carriage return, and a carriage return within a line. -/
theorem runStep_write_types_returns
    : let typed := "\r\n\nab\r\r\ncd\re\r"
      let environment : Environment := ⟨.ofList [("note", .ofText ⟨9⟩ typed)], []⟩
      let world : World VirtualScreen := .initial (.blank .standard) environment
      let calls : List Dispatch :=
        [pressEnter, pressEnter, .text "ab", pressEnter, .text "cd\re"]
      CarriesOut VirtualScreen.backend (·.offline = false)
      ∧ world.device.offline = false
      ∧ readInput ⟨1⟩ "" "Note" environment = .ok typed
      ∧ (runStep VirtualScreen.backend (.steady 0) (.action ⟨1⟩ (.write "" "Note"))
          world).2.history
        = (calls.map Event.called).reverse
      ∧ Types typed.toList calls := by
  intro typed environment world calls
  have carries : CarriesOut VirtualScreen.backend (·.offline = false) := by
    rintro device call online (rfl | ⟨line, rfl, -⟩) <;>
      simp [VirtualScreen.backend, VirtualScreen.send, VirtualScreen.refusal?, online, pressEnter]
  have reads : readInput ⟨1⟩ "" "Note" environment = .ok typed := by rfl
  have isTyping : typing typed = calls := by decide +kernel
  obtain ⟨result, types, -⟩ :=
    @runStep_write_types _ _ _ carries (.steady 0) ⟨1⟩ "" "Note" world rfl _ reads
  rw [isTyping] at result types
  exact ⟨carries, rfl, reads, by rw [result]; rfl, types⟩

/-- A step that cuts a text binds its name to the pieces, in the innermost shadow of the name or for
lasting, and changes nothing else. A divider separates the pieces; without one, the pieces are the
characters of the text.
-/
theorem runStep_parseString_separates (backend : InputBackend σ) (controls : Controls)
    (id : StepId) (text readFrom divider saveAs : String) {world : World σ} {input : String}
    (reads : readInput id text readFrom world.environment = .ok input)
    : let pieces := Text.split input divider
      let environment := world.environment.set saveAs (.ofTexts id pieces)
      runStep backend controls (.action id (.parseString text readFrom divider saveAs)) world
        = (none, { world with environment := environment })
      ∧ environment.get? saveAs = some ⟨id, .list, .list (pieces.map .text)⟩
      ∧ (divider ≠ "" → Text.Separates divider.toList input.toList (pieces.map String.toList))
      ∧ (divider = "" → pieces.map String.toList = input.toList.map fun c => [c]) := by
  intro pieces environment
  refine ⟨?_, Environment.get?_set .., ?_, ?_⟩
  · rw [runStep, runAction, reading, reads]
    rfl
  · exact fun isSome => Text.split_separates isSome input
  · rintro rfl
    exact Text.split_characters input

/-- Occurrences of the divider overlap, and the name of the pieces is shadowed. -/
theorem runStep_parseString_separates_overlapping
    : let environment : Environment :=
        ⟨.ofList [("line", .ofText ⟨9⟩ "aaaxaaaa")], [("pieces", .ofText ⟨8⟩ "old")]⟩
      let world : World VirtualScreen := .initial (.blank .standard) environment
      let stored := environment.set "Pieces" (.ofTexts ⟨1⟩ ["", "ax", "", ""])
      readInput ⟨1⟩ "" "LINE" environment = .ok "aaaxaaaa"
      ∧ runStep VirtualScreen.backend (.steady 0)
          (.action ⟨1⟩ (.parseString "" "LINE" "aa" "Pieces")) world
        = (none, { world with environment := stored })
      ∧ Text.Separates ['a', 'a'] "aaaxaaaa".toList [[], ['a', 'x'], [], []] := by
  intro environment world stored
  have reads : readInput ⟨1⟩ "" "LINE" environment = .ok "aaaxaaaa" := by rfl
  have isPieces : Text.split "aaaxaaaa" "aa" = ["", "ax", "", ""] := by decide +kernel
  obtain ⟨result, -, separates, -⟩ :=
    @runStep_parseString_separates _ VirtualScreen.backend (.steady 0) ⟨1⟩ "" "LINE" "aa" "Pieces"
      world _ reads
  rw [isPieces] at result separates
  exact ⟨reads, result, separates (by decide)⟩

end Steps

end DesktopAutomation.Run
