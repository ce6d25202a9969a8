import DesktopAutomation.Proofs.Environment.Cascade
import DesktopAutomation.Proofs.Environment.RoundTrip
import DesktopAutomation.Proofs.Environment.Shadows
import DesktopAutomation.Proofs.Json.RoundTrip
import DesktopAutomation.Proofs.Variable.Verbatim
import Mathlib.Logic.Function.Iterate

/-! What holds of an environment whatever is done to it. A lasting binding was read or was set, and
either way it stands under the key of a name. All else follows from that: look-ups behind the
shadows, listings and the JSON form agree on the names that are bound. What is read back from the
JSON form, and from its text, is what was written only if JSON names each of the values that were
set, and if the text of each number reads as this number.
-/

namespace DesktopAutomation
open Json

/-- The variable that the JSON form of a variable names. -/
def Variable.reread (binding : Variable) : Variable :=
  { binding with value := .ofJson binding.value.toJson }

/-- A variable passes a filter exactly if it has the kind and the owner that are asked for. -/
theorem VariableFilter.passes_iff (filter : VariableFilter) (binding : Variable)
    : filter.passes binding = true
      ↔ (∀ kind, filter.kind = some kind → binding.kind = kind)
        ∧ ∀ owner, filter.owner = some owner → binding.owner = owner := by
  simp only [passes, Bool.and_eq_true, Option.all_eq_true, beq_iff_eq]
  exact and_congr (forall₂_congr fun _ _ => eq_comm) (forall₂_congr fun _ _ => eq_comm)

namespace Environment

-----------------------------------------------------------------------------------------
-- Changes
-----------------------------------------------------------------------------------------

/-- A change of an environment. -/
inductive Change
  | set (name : String) (binding : Variable)
  | delete (name : String)
  | clear
  | deleteDeclared (tree : StepTree) (id : StepId)
  | shadow (name : String) (binding : Variable)
  | unshadow

/-- Makes a change. -/
def change (environment : Environment) : Change → Environment
  | .set name binding => environment.set name binding
  | .delete name => environment.delete name
  | .clear => environment.clear
  | .deleteDeclared tree id => (environment.deleteDeclared tree id).2
  | .shadow name binding => environment.shadow name binding
  | .unshadow => environment.unshadow

/-- Makes changes one after the other. -/
def changeAll (environment : Environment) (changes : List Change) : Environment :=
  changes.foldl change environment

/-- Drops all shadows, one after the other. -/
def unshadowAll (environment : Environment) : Environment :=
  unshadow^[environment.shadows.length] environment

/-- Reads the text of the JSON form of an environment. -/
def ofText? (text : String) : Option Environment := (Json.ofText? text).bind ofJson?

/-- What a cascade leaves was bound before. -/
theorem find?_of_deleteDeclared {environment : Environment} {tree : StepTree} {id : StepId}
    {key : String} {binding : Variable}
    (bound : (environment.deleteDeclared tree id).2.bindings.find? key = some binding)
    : environment.bindings.find? key = some binding := by
  rw [deleteDeclared] at bound
  split at bound
  · rw [find?_deleteAll, Option.ite_none_left_eq_some] at bound
    exact bound.2
  · exact bound

/-- A binding that lasts behind a change lasted before, or the change sets a name of its key to it.
-/
theorem find?_of_change {environment : Environment} {change : Change} {key : String}
    {binding : Variable}
    (bound : (environment.change change).bindings.find? key = some binding)
    : environment.bindings.find? key = some binding
      ∨ ∃ name, change = .set name binding ∧ keyOf name = key := by
  cases change with
  | set name new =>
      rcases find?_set_cases environment name new key with kept | ⟨same, written⟩
      · exact .inl (kept.symm.trans bound)
      · obtain rfl := Option.some.inj (written.symm.trans bound)
        exact .inr ⟨name, rfl, same⟩
  | delete name =>
      rw [Environment.change, delete, NameMap.find?_erase, Option.ite_none_left_eq_some] at bound
      exact .inl bound.2
  | clear => exact absurd bound (Option.some_ne_none binding).symm
  | deleteDeclared tree id => exact .inl (find?_of_deleteDeclared bound)
  | shadow name hidden => exact .inl bound
  | unshadow => exact .inl bound

/-- Behind any changes a binding that lasts is one from the start or one that was set, by induction
over the changes.
-/
theorem find?_of_changeAll {environment : Environment} {changes : List Change} {key : String}
    {binding : Variable}
    (bound : (environment.changeAll changes).bindings.find? key = some binding)
    : environment.bindings.find? key = some binding
      ∨ ∃ name, .set name binding ∈ changes ∧ keyOf name = key := by
  induction changes generalizing environment with
  | nil => exact .inl bound
  | cons change rest ih =>
      rcases ih bound with before | ⟨name, isSet, same⟩
      · rcases find?_of_change before with start | ⟨name, rfl, same⟩
        · exact .inl start
        · exact .inr ⟨name, List.mem_cons_self, same⟩
      · exact .inr ⟨name, List.mem_cons_of_mem _ isSet, same⟩

/-- Names that are keys remain keys whatever is done, for every binding is set under a key. -/
theorem changeAll_folded {environment : Environment} (folded : environment.Folded)
    (changes : List Change)
    : (environment.changeAll changes).Folded := by
  intro entry member
  have bound := (NameMap.find?_eq_some_iff _ entry.1 entry.2).mpr member
  rcases find?_of_changeAll bound with start | ⟨name, -, same⟩
  · exact folded entry ((NameMap.find?_eq_some_iff ..).mp start)
  · rw [← same, keyOf_keyOf]

/-- A number of shadows is dropped from the innermost one outwards, by induction over the number. -/
theorem iterate_unshadow (count : Nat) (environment : Environment)
    : unshadow^[count] environment
      = ⟨environment.bindings, environment.shadows.drop count⟩ := by
  induction count generalizing environment with
  | zero => rfl
  | succ count ih =>
      rw [Function.iterate_succ_apply, ih, unshadow, List.drop_tail]

/-- Behind all shadows there are the lasting bindings alone. -/
theorem unshadowAll_eq (environment : Environment)
    : environment.unshadowAll = ⟨environment.bindings, []⟩ := by
  rw [unshadowAll, iterate_unshadow, List.drop_length]

-----------------------------------------------------------------------------------------
-- What the keys carry
-----------------------------------------------------------------------------------------

/-- The lasting bindings stand under keys, in the order of these. Listings show those that pass a
filter, look-ups behind all shadows find what listings show, and the JSON form holds all of them.
They are read back exactly if JSON names each of their values; a text that is held as other JSON is
read as a text. From a text they are read back if moreover it nests no deeper than texts may and
each of its numbers reads back.
-/
structure Indexed (environment : Environment) : Prop where
  keys : ∀ name ∈ environment.names .all, keyOf name = name
  ordered : ∀ filter, (environment.names filter).Pairwise (· < ·)
  listed
    : ∀ filter key binding,
        (key, binding) ∈ environment.entries filter
        ↔ environment.bindings.find? key = some binding
          ∧ (∀ kind, filter.kind = some kind → binding.kind = kind)
          ∧ ∀ owner, filter.owner = some owner → binding.owner = owner
  shown
    : ∀ filter name binding,
        (keyOf name, binding) ∈ environment.entries filter
        → environment.unshadowAll.get? name = some binding
  unlisted
    : ∀ name, keyOf name ∉ environment.names .all → environment.unshadowAll.get? name = none
  converted : ofNamed environment.bindings = ⟨environment.bindings, []⟩
  decoded
    : ofJson? environment.toJson = some ⟨environment.bindings.map Variable.reread, []⟩
  exact
    : ofJson? environment.toJson = some ⟨environment.bindings, []⟩
      ↔ ∀ entry ∈ environment.bindings.entries, entry.2.value.Plain
  exactText
    : ∀ layout depth,
        layout.Blank
        → (ofText? (String.ofList (environment.toJson.print layout depth))
              = some ⟨environment.bindings, []⟩
            ↔ (∀ entry ∈ environment.bindings.entries, entry.2.value.Plain)
              ∧ environment.toJson.depth ≤ RawJson.depthLimit
              ∧ ∀ number ∈ environment.numbers, number.reread? = some number)

/-- A listing shows the bindings that pass its filter. -/
theorem mem_entries_iff (environment : Environment) (filter : VariableFilter) (key : String)
    (binding : Variable)
    : (key, binding) ∈ environment.entries filter
      ↔ environment.bindings.find? key = some binding ∧ filter.passes binding = true := by
  rw [entries, List.mem_filter, NameMap.find?_eq_some_iff]

/-- The names of all variables are those of the lasting bindings. -/
theorem names_all (environment : Environment)
    : environment.names .all = environment.bindings.names := by
  have all : environment.entries .all = environment.bindings.entries :=
    List.filter_eq_self.mpr fun _ _ => rfl
  rw [names, all, NameMap.names]

/-- Names are listed in their order, each one once. -/
theorem names_ordered (environment : Environment) (filter : VariableFilter)
    : (environment.names filter).Pairwise (· < ·) :=
  List.pairwise_map.mpr (environment.bindings.sorted.filter _)

namespace Folded
variable {environment : Environment}

/-- A name that is listed is a key. -/
theorem keyOf_of_mem_names (folded : environment.Folded) {name : String}
    (listed : name ∈ environment.names .all)
    : keyOf name = name := by
  rw [names_all] at listed
  obtain ⟨entry, member, rfl⟩ := List.mem_map.mp listed
  exact folded entry member

/-- Bindings under keys are the same when they are bound by these anew. -/
theorem ofNamed_bindings (folded : environment.Folded)
    : ofNamed environment.bindings = ⟨environment.bindings, []⟩ := by
  have keyed
      : (environment.bindings.entries.map fun entry => (keyOf entry.1, entry.2))
        = environment.bindings.entries :=
    map_eq_self_iff.mpr fun entry member => by rw [folded entry member]
  refine congrArg (Environment.mk · []) ?_
  exact (congrArg NameMap.ofList keyed).trans (NameMap.ofList_entries environment.bindings)

/-- What is written under keys is read back under the same keys, with the values that JSON names. -/
theorem ofJson?_toJson (folded : environment.Folded)
    : ofJson? environment.toJson = some ⟨environment.bindings.map Variable.reread, []⟩ := by
  have unchanged (json : Json) : json.mapNumbers id = json :=
    (Json.mapNumbers_eq_self_iff id json).mpr fun _ _ => rfl
  have read := @ofJson?_mapNumbers_of_keyed environment folded id fun _ => rfl
  have reread : changed id = Variable.reread := by
    funext binding
    rw [changed, unchanged, Variable.reread]
  rwa [unchanged, reread] at read

end Folded

/-- A plain variable is read as it was written, and no other one is. -/
theorem reread_eq_self_iff (binding : Variable)
    : binding.reread = binding ↔ binding.value.Plain := by
  have sameValue
      : binding.reread = binding ↔ VariableValue.ofJson binding.value.toJson = binding.value := by
    obtain ⟨owner, kind, value⟩ := binding
    simp [Variable.reread]
  rw [sameValue]
  constructor
  · intro same
    exact same ▸ VariableValue.plain_ofJson _
  · exact VariableValue.Plain.stored

/-- Bindings are read as they were written exactly if JSON names all their values. -/
theorem map_reread_eq_self_iff (bindings : NameMap Variable)
    : bindings.map Variable.reread = bindings
      ↔ ∀ entry ∈ bindings.entries, entry.2.value.Plain := by
  obtain ⟨entries, sorted⟩ := bindings
  simp [NameMap.map, map_eq_self_iff, Prod.ext_iff, reread_eq_self_iff]

/-- Bindings that are read back, with whatever numbers, are all of the kind that JSON names. -/
theorem plain_of_ofJson? {json : Json} {bindings : NameMap Variable}
    (isRead : ofJson? json = some ⟨bindings, []⟩)
    : ∀ entry ∈ bindings.entries, entry.2.value.Plain := by
  intro entry member
  obtain ⟨-, stored⟩ := (stored_of_ofJson? isRead).bindings entry member
  rw [← stored]
  exact VariableValue.plain_ofJson _

/-- Bindings that are written with changed numbers are read back exactly if JSON names their values
and none of the numbers changed.
-/
theorem Folded.ofJson?_mapNumbers_iff {environment : Environment} (folded : environment.Folded)
    {change : JsonNumber → JsonNumber} (natural : ∀ word, change (.natural word) = .natural word)
    : ofJson? (environment.toJson.mapNumbers change) = some ⟨environment.bindings, []⟩
      ↔ (∀ entry ∈ environment.bindings.entries, entry.2.value.Plain)
        ∧ ∀ number ∈ environment.numbers, change number = number := by
  have stored (plain : ∀ entry ∈ environment.bindings.entries, entry.2.value.Plain)
      : Stored ⟨environment.bindings, []⟩ :=
    ⟨rfl, fun entry member => ⟨folded entry member, (plain entry member).stored⟩⟩
  constructor
  · intro isRead
    have plain := plain_of_ofJson? isRead
    exact ⟨plain, ((stored plain).ofJson?_mapNumbers_eq_self_iff natural).mp isRead⟩
  · rintro ⟨plain, same⟩
    exact ((stored plain).ofJson?_mapNumbers_eq_self_iff natural).mpr same

/-- Bindings are read back from a text exactly if JSON names their values, they nest no deeper than
texts may, and each number is read back from its own text.
-/
theorem Folded.ofText?_print_iff {environment : Environment} (folded : environment.Folded)
    {layout : JsonLayout} (blank : layout.Blank) (depth : Nat)
    : ofText? (String.ofList (environment.toJson.print layout depth))
        = some ⟨environment.bindings, []⟩
      ↔ (∀ entry ∈ environment.bindings.entries, entry.2.value.Plain)
        ∧ environment.toJson.depth ≤ RawJson.depthLimit
        ∧ ∀ number ∈ environment.numbers, number.reread? = some number := by
  have natural (word : UInt64) : (JsonNumber.natural word).reread = .natural word :=
    JsonNumber.reread_of_integer rfl
  have readable
      : (∀ number ∈ environment.toJson.numbers, number.reread?.isSome = true)
        ↔ ∀ number ∈ environment.numbers, number.reread?.isSome = true :=
    environment.forall_numbers_toJson_iff fun word => by
      rw [JsonNumber.reread?_of_integer rfl, Option.isSome_some]
  have parts
      : (∀ number ∈ environment.numbers, number.reread? = some number)
        ↔ (∀ number ∈ environment.toJson.numbers, number.reread?.isSome = true)
          ∧ ∀ number ∈ environment.numbers, number.reread = number := by
    rw [readable, ← forall₂_and]
    exact forall₂_congr fun number _ => number.survives_iff
  rw [ofText?, Json.ofText?, RawJson.ofText?_print blank, Option.bind_eq_bind, Option.bind_some,
    value?_reread, parts]
  split
  · next sound =>
      rw [Option.bind_some, folded.ofJson?_mapNumbers_iff natural]
      exact and_congr_right' ⟨fun same => ⟨sound.1, sound.2, same⟩, fun all => all.2.2⟩
  · next unsound =>
      refine iff_of_false (by simp) ?_
      rintro ⟨-, shallow, read, -⟩
      exact unsound ⟨shallow, read⟩

/-- All this holds as long as every name is a key. -/
theorem Folded.indexed {environment : Environment} (folded : environment.Folded)
    : environment.Indexed where
  keys _ listed := folded.keyOf_of_mem_names listed
  ordered := environment.names_ordered
  listed filter key binding := by rw [mem_entries_iff, filter.passes_iff]
  shown filter name binding listed := by
    rw [unshadowAll_eq, get?_of_unshadowed rfl]
    exact ((mem_entries_iff ..).mp listed).1
  unlisted name unlisted := by
    rw [names_all, NameMap.mem_names_iff, Option.not_isSome_iff_eq_none] at unlisted
    rw [unshadowAll_eq, get?_of_unshadowed rfl]
    exact unlisted
  converted := folded.ofNamed_bindings
  decoded := folded.ofJson?_toJson
  exact := by
    rw [folded.ofJson?_toJson, Option.some.injEq, mk.injEq, map_reread_eq_self_iff]
    exact and_iff_left rfl
  exactText _ depth blank := folded.ofText?_print_iff blank depth

/-- An environment is read under keys. -/
theorem folded_of_ofJson? {json : Json} {environment : Environment}
    (isRead : ofJson? json = some environment)
    : environment.Folded := by
  obtain ⟨-, _, -, readUnder⟩ := mem_of_ofJson? isRead
  exact fun entry member => (readUnder entry member).1

/-- Whatever is done to an environment that was read, its names are keys, in order and as listings
and look-ups show them, and it is read as it was written, without its shadows, exactly if JSON names
each of its values. Those that JSON does not name are among the ones that were set.
-/
theorem changeAll_indexed {json : Json} {start : Environment} (isRead : ofJson? json = some start)
    (changes : List Change)
    : (start.changeAll changes).Indexed
      ∧ ∀ key binding,
          (start.changeAll changes).bindings.find? key = some binding
          → ¬binding.value.Plain
          → ∃ name, .set name binding ∈ changes ∧ keyOf name = key := by
  have folded := changeAll_folded (folded_of_ofJson? isRead) changes
  refine ⟨folded.indexed, fun key binding bound notPlain => ?_⟩
  rcases find?_of_changeAll bound with before | isSet
  · obtain ⟨-, stored⟩ :=
      (stored_of_ofJson? isRead).bindings _ ((NameMap.find?_eq_some_iff ..).mp before)
    exact absurd (stored ▸ VariableValue.plain_ofJson _) notPlain
  · exact isSet

/-- Two names are read as one. What is set in another case while the name is hidden goes away with
the shadow, and a name that is not hidden is set for lasting.
-/
theorem changeAll_indexed_namesakes
    : let texts (owner : UInt64) (text : String) : Variable := .ofText ⟨owner⟩ text
      let json : Json :=
        .object [("Total", (texts 1 "a").toJson), ("TOTAL", (texts 2 "b").toJson),
          ("rows", (texts 3 "c").toJson)]
      let changes : List Change :=
        [.shadow "Total" (texts 4 "d"), .set "tOTAL" (texts 5 "e"), .set "Other" (texts 6 "f"),
          .delete "ROWS", .unshadow]
      ∃ start,
        ofJson? json = some start
        ∧ ((start.changeAll changes).entries .all).map (fun entry => (entry.1, entry.2.owner))
          = [("other", ⟨6⟩), ("total", ⟨1⟩)]
        ∧ (start.changeAll changes).Indexed
        ∧ ofJson? (start.changeAll changes).toJson
          = some ⟨(start.changeAll changes).bindings, []⟩ := by
  intro texts json changes
  have plain : ∀ name binding, Change.set name binding ∈ changes → binding.value.Plain := by
    intro name binding isSet
    have isOne
        : name = "tOTAL" ∧ binding = texts 5 "e" ∨ name = "Other" ∧ binding = texts 6 "f" := by
      simpa [changes] using isSet
    rcases isOne with ⟨-, rfl⟩ | ⟨-, rfl⟩
    · exact .text "e"
    · exact .text "f"
  have owners
      : ((ofJson? json).map fun start =>
          ((start.changeAll changes).entries .all).map fun entry => (entry.1, entry.2.owner))
        = some [("other", ⟨6⟩), ("total", ⟨1⟩)] := by
    decide +kernel
  obtain ⟨start, isRead, owners⟩ := Option.map_eq_some_iff.mp owners
  obtain ⟨indexed, fromSet⟩ := changeAll_indexed isRead changes
  refine ⟨start, isRead, owners, indexed, indexed.exact.mpr fun entry member => ?_⟩
  by_contra notPlain
  obtain ⟨name, isSet, -⟩ :=
    fromSet entry.1 entry.2 ((NameMap.find?_eq_some_iff ..).mpr member) notPlain
  exact notPlain (plain name entry.2 isSet)

/-- What is set is not always read back: a text that is held as other JSON is not. Nor is what was
read from a text always read back from the text that it is written as: a number that moved by its
last place when it was first read may move back.
-/
theorem not_exact_heldText
    : let changes : List Change := [.set "a" ⟨⟨1⟩, .value, .other (.string "x")⟩]
      let tiny := "\x7b\"x\":\x7b\"ownerId\":1,\"value\":1e-24\x7d\x7d"
      (∃ start,
        ofJson? (.object []) = some start
        ∧ ofJson? (start.changeAll changes).toJson
          ≠ some ⟨(start.changeAll changes).bindings, []⟩)
      ∧ ∃ start,
          ofText? tiny = some start
          ∧ ofText? start.toJson.pretty ≠ some ⟨start.bindings, []⟩ := by
  intro changes tiny
  constructor
  · refine ⟨empty, rfl, fun readBack => ?_⟩
    cases plain_of_ofJson? readBack ("a", ⟨⟨1⟩, .value, .other (.string "x")⟩) (.head _) with
    | other _ noText => exact noText "x" rfl
  · have moved
        : ((ofText? tiny).map fun start =>
            decide (∀ number ∈ start.numbers, number.reread? = some number))
          = some false := by
      decide +kernel
    obtain ⟨start, isRead, moved⟩ := Option.map_eq_some_iff.mp moved
    refine ⟨start, isRead, fun readBack => of_decide_eq_false moved ?_⟩
    obtain ⟨json, -, fromJson⟩ := Option.bind_eq_some_iff.mp isRead
    have folded := folded_of_ofJson? fromJson
    exact ((folded.ofText?_print_iff JsonLayout.indented_blank 0).mp readBack).2.2

end Environment

end DesktopAutomation
