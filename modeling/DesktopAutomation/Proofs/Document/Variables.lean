import DesktopAutomation.Proofs.Document.RoundTrip

/-! Which variables of a text a document keeps. Names that differ in case only share a key, and of
all members with one key a single one is kept: that with the greatest name, the last among equal
names. So nothing is lost exactly if members that share a key hold the same variable.
-/

namespace DesktopAutomation
open Json

-----------------------------------------------------------------------------------------
-- Environments
-----------------------------------------------------------------------------------------

/-- No member before or behind one with a given name has its key and a greater name, and none behind
it has its name again.
-/
structure Prevails (before : List (String × Json)) (name : String)
    (after : List (String × Json)) : Prop where
  before : ∀ other ∈ before, keyOf other.1 = keyOf name → ¬name < other.1
  after : ∀ other ∈ after, keyOf other.1 = keyOf name → other.1 < name

namespace Environment

/-- What an environment keeps of its written members: a name looks up the member that prevails, and
whatever is looked up is a member with the key of the name.
-/
structure Keeps (members : List (String × Json)) (environment : Environment) : Prop where
  decoded : ∀ member ∈ members, (Variable.ofJson? member.2).isSome
  prevailing
    : ∀ before name json after,
        members = before ++ (name, json) :: after
        → Prevails before name after
        → environment.get? name = Variable.ofJson? json
  bound : ∀ member ∈ members, (environment.get? member.1).isSome
  written
    : ∀ name binding,
        environment.get? name = some binding
        → ∃ member ∈ members,
            keyOf member.1 = keyOf name ∧ Variable.ofJson? member.2 = some binding

/-- A member is read as a named variable. -/
def readMember? (member : String × Json) : Option (String × Variable) := do
  return (member.1, ← Variable.ofJson? member.2)

theorem readMember?_eq_some_iff {member : String × Json} {entry : String × Variable}
    : readMember? member = some entry
      ↔ member.1 = entry.1 ∧ Variable.ofJson? member.2 = some entry.2 := by
  rw [readMember?]
  cases read : Variable.ofJson? member.2 <;> simp [Prod.ext_iff]

theorem get?_ofNamed (named : NameMap Variable) (name : String)
    : (ofNamed named).get? name
      = (NameMap.ofList (named.entries.map fun entry => (keyOf entry.1, entry.2))).find?
          (keyOf name) :=
  rfl

/-- An entry counts if all others with its key have lesser names. -/
theorem get?_ofNamed_of_greatest {named : NameMap Variable} {name : String} {binding : Variable}
    (member : (name, binding) ∈ named.entries)
    (greatest : ∀ entry ∈ named.entries, keyOf entry.1 = keyOf name → ¬name < entry.1)
    : (ofNamed named).get? name = some binding := by
  obtain ⟨before, after, whole⟩ := List.append_of_mem member
  have sorted := named.sorted
  rw [NamesSorted, whole, List.pairwise_append, List.pairwise_cons] at sorted
  rw [get?_ofNamed, whole, List.map_append, List.map_cons]
  apply NameMap.find?_ofList_of_last
  intro entry listed same
  obtain ⟨other, behind, rfl⟩ := List.mem_map.mp listed
  refine greatest other ?_ same (sorted.2.1.1 other behind)
  rw [whole]
  exact List.mem_append_right _ (List.mem_cons_of_mem _ behind)

section
variable {members : List (String × Json)} {entries : List (String × Variable)}

theorem exists_entry (read : members.map readMember? = entries.map some)
    {member : String × Json} (listed : member ∈ members)
    : ∃ entry ∈ entries, member.1 = entry.1 ∧ Variable.ofJson? member.2 = some entry.2 := by
  have mapped := List.mem_map_of_mem (f := readMember?) listed
  rw [read] at mapped
  obtain ⟨entry, isEntry, same⟩ := List.mem_map.mp mapped
  exact ⟨entry, isEntry, readMember?_eq_some_iff.mp same.symm⟩

theorem exists_member (read : members.map readMember? = entries.map some)
    {entry : String × Variable} (listed : entry ∈ entries)
    : ∃ member ∈ members, member.1 = entry.1 ∧ Variable.ofJson? member.2 = some entry.2 := by
  have mapped := List.mem_map_of_mem (f := some) listed
  rw [← read] at mapped
  obtain ⟨member, isMember, same⟩ := List.mem_map.mp mapped
  exact ⟨member, isMember, readMember?_eq_some_iff.mp same⟩

/-- A member that prevails is the last of its name, and the greatest name of its key. -/
theorem get?_of_prevails {before after : List (String × Json)} {name : String} {json : Json}
    (read : (before ++ (name, json) :: after).map readMember? = entries.map some)
    (prevails : Prevails before name after)
    : (ofNamed (.ofList entries)).get? name = Variable.ofJson? json := by
  have written {entry : String × Variable} (listed : entry ∈ entries) := exists_member read listed
  rw [List.map_append, List.map_cons, eq_comm] at read
  obtain ⟨front, rest, rfl, _, readRest⟩ := List.map_eq_append_iff.mp read
  obtain ⟨⟨own, binding⟩, behind, rfl, readHere, readBehind⟩ := List.map_eq_cons_iff.mp readRest
  obtain ⟨rfl, decoded⟩ := readMember?_eq_some_iff.mp readHere.symm
  have last : ∀ entry ∈ behind, entry.1 ≠ name := by
    rintro entry listed same
    obtain ⟨other, isAfter, sameName, _⟩ := exists_member readBehind.symm listed
    rw [same] at sameName
    have below := prevails.after other isAfter (congrArg keyOf sameName)
    exact String.lt_irrefl _ (sameName ▸ below)
  rw [decoded]
  apply get?_ofNamed_of_greatest
  · exact (NameMap.find?_eq_some_iff ..).mp (NameMap.find?_ofList_of_last last)
  · intro entry listed sameKey above
    obtain ⟨other, isMember, sameName, _⟩ := written (NameMap.mem_of_mem_ofList listed)
    rw [← sameName] at sameKey above
    rcases List.mem_append.mp isMember with isBefore | isBehind
    · exact prevails.before other isBefore sameKey above
    · rcases List.mem_cons.mp isBehind with rfl | isAfter
      · exact String.lt_irrefl _ above
      · exact String.lt_asymm above (prevails.after other isAfter sameKey)

theorem ofNamed_keeps (read : members.map readMember? = entries.map some)
    : Keeps members (ofNamed (.ofList entries)) where
  decoded member listed := by
    obtain ⟨entry, _, _, decoded⟩ := exists_entry read listed
    exact Option.isSome_of_eq_some decoded
  prevailing := by
    rintro before name json after rfl prevails
    exact get?_of_prevails read prevails
  bound member listed := by
    obtain ⟨entry, isEntry, sameName, _⟩ := exists_entry read listed
    rw [← Option.ne_none_iff_isSome, get?_ofNamed, ne_eq, NameMap.find?_ofList_eq_none_iff]
    intro unbound
    have named : ∃ binding, (entry.1, binding) ∈ (NameMap.ofList entries).entries := by
      simp only [← NameMap.find?_eq_some_iff, ← Option.isSome_iff_exists,
        ← Option.ne_none_iff_isSome, ne_eq, NameMap.find?_ofList_eq_none_iff]
      exact fun missing => missing entry isEntry rfl
    obtain ⟨binding, isNamed⟩ := named
    exact unbound _ (List.mem_map_of_mem isNamed) (congrArg keyOf sameName.symm)
  written name binding found := by
    rw [get?_ofNamed, NameMap.find?_eq_some_iff] at found
    obtain ⟨entry, isNamed, parts⟩ := List.mem_map.mp (NameMap.mem_of_mem_ofList found)
    obtain ⟨sameKey, rfl⟩ := Prod.mk.inj parts
    obtain ⟨member, isMember, sameName, decoded⟩ :=
      exists_member read (NameMap.mem_of_mem_ofList isNamed)
    exact ⟨member, isMember, sameName ▸ sameKey, decoded⟩

end

/-- Nothing is lost exactly if members that share a key hold the same variable. -/
theorem Keeps.all_iff {members : List (String × Json)} {environment : Environment}
    (keeps : Keeps members environment)
    (sameKey
      : ∀ name other,
          keyOf name = keyOf other → environment.get? name = environment.get? other)
    : (∀ member ∈ members, environment.get? member.1 = Variable.ofJson? member.2)
      ↔ ∀ member ∈ members, ∀ other ∈ members,
          keyOf member.1 = keyOf other.1
          → Variable.ofJson? member.2 = Variable.ofJson? other.2 := by
  constructor
  · intro kept member isMember other isOther same
    rw [← kept member isMember, ← kept other isOther]
    exact sameKey _ _ same
  · intro alike member isMember
    obtain ⟨binding, found⟩ := Option.isSome_iff_exists.mp (keeps.bound member isMember)
    obtain ⟨other, isOther, same, decoded⟩ := keeps.written _ _ found
    rw [found, alike member isMember other isOther same.symm, decoded]

end Environment

-----------------------------------------------------------------------------------------
-- Documents
-----------------------------------------------------------------------------------------

namespace Document

/-- The members that hold the variables in a text, with names as they are written. -/
def variableMembers? (text : String) : Option (List (String × Json)) :=
  (writtenPart? "variables" text).bind Json.members?

/-- Of the variables that are written in a text, a document keeps one for each key: the member that
prevails. So it keeps them all exactly if members that share a key hold the same variable.
-/
theorem read_variables {text : String} {document : Document}
    (accepted : read text = .ok document)
    : ∃ members,
        variableMembers? text = some members
        ∧ Environment.Keeps members document.environment
        ∧ ((∀ member ∈ members,
              document.environment.get? member.1 = Variable.ofJson? member.2)
            ↔ ∀ member ∈ members, ∀ other ∈ members,
                keyOf member.1 = keyOf other.1
                → Variable.ofJson? member.2 = Variable.ofJson? other.2) := by
  obtain ⟨decoded, _⟩ := (read_eq_ok_iff ..).mp accepted
  obtain ⟨_, bindings, _, _, isWritten, isRead⟩ := written_of_decode? decoded
  simp only [Environment.ofJson?, Option.bind_eq_bind, Option.bind_eq_some_iff] at isRead
  obtain ⟨members, isObject, entries, entriesRead, made⟩ := isRead
  have keeps : Environment.Keeps members document.environment :=
    Option.some.inj made ▸ Environment.ofNamed_keeps (Environment.mapM_eq_some_iff.mp entriesRead)
  refine ⟨members, by rw [variableMembers?, isWritten, Option.bind_some, isObject], keeps, ?_⟩
  apply keeps.all_iff
  intro name other same
  rw [Environment.get?, Environment.get?, same]

/-- A text with two variables whose names differ in case only. -/
def namesakesText : String :=
  "\x7b\"meta\":\x7b\"title\":\"T\",\"createdAt\":\"2021-03-04T05:06:07Z\"\x7d,"
    ++ "\"data\":\x7b\"steps\":[],\"variables\":\x7b"
    ++ "\"x\":\x7b\"ownerId\":1,\"type\":\"value\",\"value\":\"a\"\x7d,"
    ++ "\"X\":\x7b\"ownerId\":2,\"type\":\"value\",\"value\":\"b\"\x7d\x7d\x7d\x7d"

/-- The text that a variable holds. -/
def heldText? (binding? : Option Variable) : Option String := binding?.bind (·.value.asText?)

theorem variableMembers?_namesakesText
    : (variableMembers? namesakesText).map
          (·.map fun member => (member.1, heldText? (Variable.ofJson? member.2)))
        = some [("x", some "a"), ("X", some "b")] := by
  decide +kernel

theorem read_namesakesText
    : ∃ document,
        read namesakesText = .ok document
        ∧ heldText? (document.environment.get? "X") = some "a" := by
  have readable
      : (match read namesakesText with
        | .ok document => heldText? (document.environment.get? "X") == some "a"
        | .error _ => false) = true := by
    decide +kernel
  cases accepted : read namesakesText with
  | error _ => simp [accepted] at readable
  | ok document => exact ⟨document, rfl, by simpa [accepted] using readable⟩

/-- Both variables are written, and the one with the greater name is kept. -/
theorem read_variables_namesakes
    : ∃ document members,
        read namesakesText = .ok document
        ∧ variableMembers? namesakesText = some members
        ∧ Environment.Keeps members document.environment
        ∧ ((∀ member ∈ members,
              document.environment.get? member.1 = Variable.ofJson? member.2)
            ↔ ∀ member ∈ members, ∀ other ∈ members,
                keyOf member.1 = keyOf other.1
                → Variable.ofJson? member.2 = Variable.ofJson? other.2) := by
  obtain ⟨document, accepted, _⟩ := read_namesakesText
  obtain ⟨members, isWritten, keeps, all⟩ := read_variables accepted
  exact ⟨document, members, accepted, isWritten, keeps, all⟩

/-- Not every variable that is written in a text is kept. -/
theorem not_read_keepsAll
    : ¬∀ text document members,
        read text = .ok document
        → variableMembers? text = some members
        → ∀ member ∈ members,
            document.environment.get? member.1 = Variable.ofJson? member.2 := by
  intro keepsAll
  obtain ⟨document, accepted, kept⟩ := read_namesakesText
  obtain ⟨members, isWritten, listed⟩ := Option.map_eq_some_iff.mp variableMembers?_namesakesText
  have upper : ("X", some "b") ∈ [("x", some "a"), ("X", some "b")] := by simp
  rw [← listed] at upper
  obtain ⟨member, isMember, parts⟩ := List.mem_map.mp upper
  obtain ⟨name, held⟩ := Prod.mk.inj parts
  have same := keepsAll namesakesText document members accepted isWritten member isMember
  rw [← same, name, kept] at held
  simp at held

end Document

end DesktopAutomation
