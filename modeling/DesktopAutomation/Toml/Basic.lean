import DesktopAutomation.Number.Power
import DesktopAutomation.NameMap

/-!
TOML values, and how a table grows while its text is read. A table remembers how it came to be,
since only some tables may be added to later.
-/

namespace DesktopAutomation

/-- How a table came to be: by a header or by braces, below a longer header, or by a dotted key. -/
inductive TableOrigin
  | stated
  | implied
  | dotted
deriving DecidableEq, Repr

/-- A TOML value. Floats and dates hold nothing, as no setting is one. The tables of an array of
tables stand in reverse order.
-/
inductive Toml
  | string (value : String)
  | integer (value : Int)
  | float
  | boolean (value : Bool)
  | date
  | array (items : List Toml)
  | inlineTable (entries : List (String × Toml))
  | table (origin : TableOrigin) (entries : List (String × Toml))
  | tables (reversed : List (List (String × Toml)))

namespace Toml

/-- The entries of a table, sorted by key. -/
abbrev Entries := List (String × Toml)

-----------------------------------------------------------------------------------------
-- Growing tables
-----------------------------------------------------------------------------------------

/-- Changes the table that a path of keys leads to. Tables that are missing on the way are made with
the origin `making`; the last table of an array of tables stands for all. Only if `making` is not
`dotted` does the path lead through tables that are stated.
-/
def within? (making : TableOrigin) (change : TableOrigin → Entries → Option Entries)
    : List String → TableOrigin → Entries → Option Entries
  | [], origin, entries => change origin entries
  | key :: rest, _, entries =>
    match entries.lookup key with
    | none =>
      (within? making change rest making []).map fun inner =>
        insertSorted key (.table making inner) entries
    | some (.table origin inner) =>
      if making = .dotted ∧ origin = .stated then none
      else
        (within? making change rest origin inner).map fun inner =>
          insertSorted key (.table origin inner) entries
    | some (.tables (last :: earlier)) =>
      (within? making change rest .stated last).map fun last =>
        insertSorted key (.tables (last :: earlier)) entries
    | some _ => none

/-- Sets a key that is free. -/
def setFree? (key : String) (value : Toml) (entries : Entries) : Option Entries :=
  match entries.lookup key with
  | none => some (insertSorted key value entries)
  | some _ => none

/-- Adds a value under a dotted key: a path and a last key, which is set in a table that dotted keys
made, or in the table itself if there is no path.
-/
def addPair? (path : List String) (key : String) (value : Toml) (entries : Entries)
    : Option Entries :=
  let set (origin : TableOrigin) (inner : Entries) : Option Entries :=
    if path = [] ∨ origin = .dotted then setFree? key value inner else none
  within? .dotted set path .stated entries

/-- A value with its key and the path before it. -/
structure Pair where
  path : List String
  key : String
  value : Toml

/-- Adds values one by one. -/
def addPairs? (pairs : List Pair) (entries : Entries) : Option Entries :=
  pairs.foldlM (fun entries pair => addPair? pair.path pair.key pair.value entries) entries

/-- Adds the table of a header. It takes the place of one that is only implied. -/
def addTable? (path : List String) (key : String) (pairs : List Pair) (root : Entries)
    : Option Entries :=
  let set (_ : TableOrigin) (outer : Entries) : Option Entries :=
    match outer.lookup key with
    | none => (addPairs? pairs []).map fun inner => insertSorted key (.table .stated inner) outer
    | some (.table .implied entries) =>
      (addPairs? pairs entries).map fun inner => insertSorted key (.table .stated inner) outer
    | some _ => none
  within? .implied set path .stated root

/-- Adds the table of a header in double brackets to an array of tables. -/
def addToTables? (path : List String) (key : String) (pairs : List Pair) (root : Entries)
    : Option Entries :=
  let set (_ : TableOrigin) (outer : Entries) : Option Entries := do
    let inner ← addPairs? pairs []
    match outer.lookup key with
    | none => return insertSorted key (.tables [inner]) outer
    | some (.tables earlier) => return insertSorted key (.tables (inner :: earlier)) outer
    | some _ => none
  within? .implied set path .stated root

-----------------------------------------------------------------------------------------
-- Views
-----------------------------------------------------------------------------------------

/-- The text that a value is. -/
def string? : Toml → Option String
  | .string value => some value
  | _ => none

/-- The word that a value is: an integer that is not negative. -/
def word? : Toml → Option UInt64
  | .integer value => if 0 ≤ value ∧ value < Number.wordCount then some (UInt64.ofNat value.toNat) else none
  | _ => none

/-- The fields of a record: those of a table, or the items of an array in their order. A date has no
fields.
-/
def fields? (names : List String) : Toml → Option Entries
  | .table _ entries | .inlineTable entries => some entries
  | .array items => some (names.zip items)
  | .tables reversed => some (names.zip (reversed.reverse.map (.table .stated)))
  | .date => some []
  | _ => none

end Toml

end DesktopAutomation
