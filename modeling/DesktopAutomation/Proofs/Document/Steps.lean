import DesktopAutomation.Proofs.Document.RoundTrip
import DesktopAutomation.Proofs.Step.Faulty

/-! Which items of a text are steps of a document: all of them, in their order and at every depth.
One item that writes no step, wherever it stands, has the whole text refused. Only loose items are
read against the plain forms.
-/

namespace DesktopAutomation
open Json

namespace Step

-----------------------------------------------------------------------------------------
-- Items at every depth
-----------------------------------------------------------------------------------------

/-- An item stands among others, or in the body of a cycle or a conditional among them. -/
inductive ItemOf (item : Json) : List Json → Prop
  | here {items} (listed : item ∈ items) : ItemOf item items
  | within {items members type typeName fields inner} (listed : .object members ∈ items)
    (isType : Field members "type" type) (named : Names typeName type)
    (container : typeName ∈ ["cycle", "conditional"])
    (isData : Field members "data" (.object fields)) (isBody : Field fields "steps" (.array inner))
    (below : ItemOf item inner)
    : ItemOf item items

theorem AllWritten.exists_of_mem {steps : List Step} {items : List Json} {item : Json}
    (written : AllWritten steps items) (listed : item ∈ items)
    : ∃ step ∈ steps, Written step item := by
  induction items generalizing steps with
  | nil => simp at listed
  | cons first rest ih =>
      cases written with
      | cons firstWritten others =>
          rcases List.mem_cons.mp listed with rfl | inRest
          · exact ⟨_, List.mem_cons_self, firstWritten⟩
          · obtain ⟨step, isStep, stepWritten⟩ := ih others inRest
            exact ⟨step, List.mem_cons_of_mem _ isStep, stepWritten⟩

/-- Every item, at any depth, writes one of the listed steps. -/
theorem AllWritten.exists_of_itemOf {steps : List Step} {items : List Json} {item : Json}
    (written : AllWritten steps items) (isItem : ItemOf item items)
    : ∃ step ∈ listingOf steps, Written step item := by
  induction isItem generalizing steps with
  | here listed =>
      obtain ⟨step, isStep, stepWritten⟩ := written.exists_of_mem listed
      exact ⟨step, mem_listingOf_of_mem isStep (mem_listing step), stepWritten⟩
  | within listed isType named container isData isBody below ih =>
      obtain ⟨holder, isHolder, holderWritten⟩ := written.exists_of_mem listed
      cases holderWritten with
      | @action id act members data fields head _ _ =>
          obtain ⟨other, otherType, otherNamed⟩ := head.isType
          obtain rfl := otherType.unique isType
          obtain rfl := otherNamed.unique named
          cases act <;> simp [Action.typeName] at container
      | @statement id stmt body members otherFields otherItems head parts otherBody each =>
          obtain rfl := Json.object.inj (head.isData.unique isData)
          obtain rfl := Json.array.inj (otherBody.unique isBody)
          obtain ⟨step, isStep, stepWritten⟩ := ih each
          refine ⟨step, mem_listingOf_of_mem isHolder ?_, stepWritten⟩
          exact List.mem_cons_of_mem _ isStep

end Step

-----------------------------------------------------------------------------------------
-- Documents
-----------------------------------------------------------------------------------------

namespace Document

/-- The items that hold the steps in a text, as they are written. -/
def stepItems? (text : String) : Option (List Json) := (writtenPart? "steps" text).bind Json.items?

theorem allWritten_of_decode? {text : String} {document : Document}
    (decoded : decode? text = some document)
    : ∃ items, stepItems? text = some items ∧ Step.AllWritten document.steps.steps items := by
  obtain ⟨steps, _, isWritten, isRead, _, _⟩ := written_of_decode? decoded
  obtain ⟨listed, isListed, tree⟩ := Option.map_eq_some_iff.mp isRead
  obtain ⟨items, rfl, each⟩ := Step.listOfJson?_eq_some_iff.mp isListed
  refine ⟨items, by rw [stepItems?, isWritten]; rfl, ?_⟩
  rw [← tree]
  exact Step.ofItems?_eq_some_iff.mp each

/-- A text that is accepted has just the steps of its document, item by item, with all their
fields and bodies, and by the plain forms only its loose items are at fault. If one of its items
is faulty by every form, at whatever depth, the text is refused as malformed.
-/
theorem read_steps (text : String)
    : (∀ document,
        read text = .ok document
        → ∃ items,
            stepItems? text = some items
            ∧ Step.AllWritten document.steps.steps items
            ∧ ∀ item, Step.ItemOf item items → (Faulty .plain item ↔ Loose item))
      ∧ ∀ items item,
          stepItems? text = some items
          → Step.ItemOf item items
          → Faulty .any item
          → read text = .error .malformed := by
  constructor
  · intro document accepted
    obtain ⟨items, isText, written⟩ :=
      allWritten_of_decode? ((read_eq_ok_iff ..).mp accepted).1
    refine ⟨items, isText, written, fun item isItem => ?_⟩
    obtain ⟨step, _, stepWritten⟩ := written.exists_of_itemOf isItem
    exact stepWritten.fit.faulty_plain_iff
  · intro items item isText isItem faulty
    rw [read]
    cases decoded : decode? text with
    | none => rfl
    | some document =>
        obtain ⟨others, isOther, written⟩ := allWritten_of_decode? decoded
        obtain rfl := Option.some.inj (isOther.symm.trans isText)
        obtain ⟨step, _, stepWritten⟩ := written.exists_of_itemOf isItem
        exact absurd faulty stepWritten.fit.not_faulty

/-- The type and the data of an item that is written in the plain way. -/
def plain? (item : Json) : Option (String × List (String × Json)) := do
  let members ← item.members?
  let typeName ← (← required? "type" members).string?
  let fields ← (← required? "data" members).members?
  return (typeName, fields)

theorem plain?_eq_some {item : Json} {typeName : String} {fields : List (String × Json)}
    (isPlain : plain? item = some (typeName, fields))
    : ∃ members,
        item = .object members
        ∧ Field members "type" (.string typeName)
        ∧ Field members "data" (.object fields) := by
  simp only [plain?, Option.bind_eq_bind, Option.bind_eq_some_iff, members?_eq_some_iff,
    required?_eq_some_iff, string?_eq_some_iff, Option.pure_def, Option.some.injEq,
    Prod.mk.injEq] at isPlain
  obtain ⟨members, rfl, _, isType, _, rfl, _, isData, _, rfl, rfl, rfl⟩ := isPlain
  exact ⟨members, rfl, isType, isData⟩

/-- A text with one step in the body of a cycle, which sleeps for a time that is given as a
string.
-/
def faultyText : String :=
  "\x7b\"meta\":\x7b\"title\":\"T\",\"createdAt\":\"2022-02-03T04:05:06Z\"\x7d,"
    ++ "\"data\":\x7b\"variables\":\x7b\x7d,\"steps\":[\x7b\"id\":1,\"type\":\"cycle\","
    ++ "\"data\":\x7b\"iterable\":\"rows\",\"saveItemsAs\":\"row\",\"steps\":["
    ++ "\x7b\"id\":2,\"type\":\"sleep\",\"data\":\x7b\"time\":\"5\"\x7d\x7d]\x7d\x7d]\x7d\x7d"

/-- A text with one click, whose button is the key of an object. -/
def looseText : String :=
  "\x7b\"meta\":\x7b\"title\":\"T\",\"createdAt\":\"2022-03-04T05:06:07Z\"\x7d,"
    ++ "\"data\":\x7b\"variables\":\x7b\x7d,\"steps\":[\x7b\"id\":1,\"type\":\"click\","
    ++ "\"data\":\x7b\"button\":\x7b\"left\":null\x7d\x7d\x7d]\x7d\x7d"

theorem read_looseText : ∃ document, read looseText = .ok document := by
  have readable : (read looseText).toOption.isSome = true := by decide +kernel
  cases accepted : read looseText with
  | error _ => simp [accepted, Except.toOption] at readable
  | ok document => exact ⟨document, rfl⟩

/-- The click is a step of its document; the sleep is faulty, so the text around it is refused. -/
theorem read_steps_nested
    : (∃ document items,
        read looseText = .ok document
        ∧ stepItems? looseText = some items
        ∧ Step.AllWritten document.steps.steps items
        ∧ ∀ item, Step.ItemOf item items → (Faulty .plain item ↔ Loose item))
      ∧ ∃ items item,
          stepItems? faultyText = some items
          ∧ Step.ItemOf item items
          ∧ Faulty .any item
          ∧ read faultyText = .error .malformed := by
  constructor
  · obtain ⟨document, accepted⟩ := read_looseText
    obtain ⟨items, isText, written, loose⟩ := (read_steps looseText).1 document accepted
    exact ⟨document, items, accepted, isText, written, loose⟩
  · have shape
        : (do
            let items ← stepItems? faultyText
            let (typeName, fields) ← plain? (← items.head?)
            let inner ← (← required? "steps" fields).items?
            let (innerType, innerFields) ← plain? (← inner.head?)
            let time ← required? "time" innerFields
            return (typeName, innerType, time.word?))
          = some ("cycle", "sleep", none) := by
      decide +kernel
    simp only [Option.bind_eq_bind, Option.bind_eq_some_iff, Option.pure_def, Option.some.injEq,
      Prod.mk.injEq, Prod.exists, required?_eq_some_iff] at shape
    obtain ⟨items, isText, item, isFirst, typeName, fields, isPlain, _, isBody, inner, isArray,
      nested, isNested, innerType, innerFields, innerPlain, time, isTime, rfl, rfl, noWord⟩ := shape
    obtain ⟨members, rfl, isType, isData⟩ := plain?_eq_some isPlain
    obtain ⟨innerMembers, rfl, isInnerType, isInnerData⟩ := plain?_eq_some innerPlain
    obtain rfl := Json.items?_eq_some_iff.mp isArray
    have isItem : Step.ItemOf (.object innerMembers) items :=
      .within (List.mem_of_mem_head? isFirst) isType .string List.mem_cons_self isData isBody
        (.here (List.mem_of_mem_head? isNested))
    have faulty : Faulty .any (.object innerMembers) := by
      refine .field isInnerType .string isInnerData rfl rfl (List.mem_singleton_self _) ?_
      rintro value isValue ⟨word, rfl⟩
      obtain rfl := isValue.unique isTime
      simp [word?] at noWord
    exact ⟨items, _, isText, isItem, faulty, (read_steps faultyText).2 items _ isText isItem faulty⟩

/-- Not every text with an item that is faulty by the plain forms is refused. -/
theorem not_read_strict
    : ¬∀ text items item,
        stepItems? text = some items
        → Step.ItemOf item items
        → Faulty .plain item
        → read text = .error .malformed := by
  intro strict
  have shape
      : (do
          let items ← stepItems? looseText
          let (typeName, fields) ← plain? (← items.head?)
          let button ← required? "button" fields
          return (typeName, button.string?))
        = some ("click", none) := by
    decide +kernel
  simp only [Option.bind_eq_bind, Option.bind_eq_some_iff, Option.pure_def, Option.some.injEq,
    Prod.mk.injEq, Prod.exists, required?_eq_some_iff] at shape
  obtain ⟨items, isText, item, isFirst, typeName, fields, isPlain, button, isButton, rfl, noText⟩ :=
    shape
  obtain ⟨members, rfl, isType, isData⟩ := plain?_eq_some isPlain
  have faulty : Faulty .plain (.object members) := by
    refine .field isType rfl isData rfl rfl (List.mem_singleton_self _) ?_
    rintro value isValue ⟨other, rfl⟩
    obtain rfl := isValue.unique isButton
    simp [string?] at noText
  have refused := strict looseText items _ isText (.here (List.mem_of_mem_head? isFirst)) faulty
  obtain ⟨document, accepted⟩ := read_looseText
  simp [accepted] at refused

end Document

end DesktopAutomation
