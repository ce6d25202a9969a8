import DesktopAutomation.Backend.Dispatch
import DesktopAutomation.Number.Natural
import DesktopAutomation.Store.FileTree
import DesktopAutomation.Toml.Reading

/-!
Settings, from a file in TOML and from the environment of the program. Every setting has a default,
and so the file may be missing; the environment goes before the file.
-/

namespace DesktopAutomation

/-- Why there are no settings. -/
inductive SettingsError
  | malformed
  | unreadable
  | emptyScreen
deriving DecidableEq, Repr

/-- The message of a settings error. -/
def SettingsError.message : SettingsError → String
  | .malformed => "failed to parse config file"
  | .unreadable => "failed to read config file"
  | .emptyScreen => "invalid configuration: screen width and height must be non-zero"

/-- The settings: the wait before every step in milliseconds, the folder of the store, the size of
the screen, and what is logged.
-/
structure Settings where
  stepDelay : UInt64
  automationsFolder : String
  screen : Screen
  logFilter : String
deriving DecidableEq, Repr

namespace Settings

/-- The settings without a file and an environment. -/
def standard : Settings := ⟨0, "automations", .standard, "stepwise=info"⟩

/-- The path of the settings file, if no other is given. -/
def standardPath : String := "stepwise.toml"

-----------------------------------------------------------------------------------------
-- The file
-----------------------------------------------------------------------------------------

/-- The value of a key, or what stands in for it if it is missing. -/
def valueOr {α : Type} (read : Toml → Option α) (name : String) (entries : Toml.Entries)
    (standIn : α) : Option α :=
  match entries.lookup name with
  | some value => read value
  | none => some standIn

/-- The fields of a section; a missing section has none. -/
def sectionFields (name : String) (fieldNames : List String) (entries : Toml.Entries)
    : Option Toml.Entries :=
  valueOr (Toml.fields? fieldNames) name entries []

/-- The settings in the entries of a file. Keys that are no settings do not matter. -/
def ofEntries? (entries : Toml.Entries) : Option Settings := do
  let runner ← sectionFields "runner" ["step_delay_ms"] entries
  let storage ← sectionFields "storage" ["automations_dir"] entries
  let screen ← sectionFields "screen" ["width", "height"] entries
  let logging ← sectionFields "logging" ["filter"] entries
  return {
    stepDelay := ← valueOr Toml.word? "step_delay_ms" runner standard.stepDelay
    automationsFolder := ←
      valueOr Toml.string? "automations_dir" storage standard.automationsFolder
    screen := {
      width := ← valueOr Toml.word? "width" screen standard.screen.width
      height := ← valueOr Toml.word? "height" screen standard.screen.height }
    logFilter := ← valueOr Toml.string? "filter" logging standard.logFilter }

/-- The settings of what is found in the place of the file. -/
def ofFile (found : Lookup) : Except SettingsError Settings :=
  match found with
  | .missing => .ok standard
  | found =>
    match found.text? with
    | none => .error .unreadable
    | some text =>
      match (Toml.ofText? text).bind ofEntries? with
      | some settings => .ok settings
      | none => .error .malformed

-----------------------------------------------------------------------------------------
-- The environment
-----------------------------------------------------------------------------------------

/-- The settings with those of the environment before them. A delay that is no number does not
count.
-/
def override (environment : String → Option String) (settings : Settings) : Settings :=
  let delay? := (environment "STEPWISE_STEP_DELAY_MS").bind (Number.readWord · |>.toOption)
  let filter? := (environment "RUST_LOG").or (environment "STEPWISE_LOG")
  { settings with
    stepDelay := delay?.getD settings.stepDelay
    automationsFolder := (environment "STEPWISE_AUTOMATIONS_DIR").getD settings.automationsFolder
    logFilter := filter?.getD settings.logFilter }

/-- The settings of a file and an environment. The screen must not be empty. -/
def load (found : Lookup) (environment : String → Option String)
    : Except SettingsError Settings := do
  let settings := (← ofFile found).override environment
  if settings.screen.width = 0 ∨ settings.screen.height = 0 then .error .emptyScreen
  else .ok settings

end Settings

end DesktopAutomation
