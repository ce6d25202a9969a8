import DesktopAutomation.Number.Natural

/-!
The arguments of the command line: a command with its file and its options. The path of the
settings file may be told before or behind the name of the command, but not twice in one place.
-/

namespace DesktopAutomation.CommandLine

/-- What is to be done. -/
inductive Command
  | run (file : String) (delay : Option UInt64)
  | check (file : String)
  | list
deriving DecidableEq, Repr

/-- What the arguments ask for. -/
inductive Request
  | version
  | help
  | command (settingsPath : Option String) (command : Command)
deriving DecidableEq, Repr

/-- Why the arguments ask for nothing. -/
inductive UsageError
  | unknownArgument (argument : String)
  | repeatedOption (name : String)
  | missingValue (name : String)
  | badValue (name : String)
  | missingFile
  | missingCommand
deriving DecidableEq, Repr

/-- The message of a usage error. -/
def UsageError.message : UsageError → String
  | .unknownArgument argument => "unexpected argument " ++ argument
  | .repeatedOption name => "option --" ++ name ++ " cannot be used twice"
  | .missingValue name => "option --" ++ name ++ " needs a value"
  | .badValue name => "invalid value for " ++ name
  | .missingFile => "a file is needed"
  | .missingCommand => "a command is needed: run, check or list"

-----------------------------------------------------------------------------------------
-- Single arguments
-----------------------------------------------------------------------------------------

/-- The form of an argument. A dash alone is a plain text. -/
inductive Form
  | divider
  | long (name : String) (attached : Option String)
  | short (letter : Char)
  | plain
deriving DecidableEq, Repr

/-- The form of an argument. -/
def formOf (argument : String) : Form :=
  match argument.toList with
  | ['-', '-'] => .divider
  | '-' :: '-' :: text =>
    let name := text.takeWhile (· != '=')
    match text.drop name.length with
    | [] => .long (String.ofList name) none
    | _ :: value => .long (String.ofList name) (some (String.ofList value))
  | '-' :: letter :: _ => .short letter
  | _ => .plain

/-- The value of an option: attached to it, or the next argument if that is a plain text. -/
def takeValue (name : String) (attached : Option String) (rest : List String)
    : Except UsageError (String × List String) :=
  match attached, rest with
  | some value, rest => .ok (value, rest)
  | none, value :: rest =>
    if formOf value = .plain then .ok (value, rest) else .error (.missingValue name)
  | none, [] => .error (.missingValue name)

/-- What an option was told, unless it was told before. -/
def setOnce {α : Type} (name : String) (before : Option α) (value : α)
    : Except UsageError (Option α) :=
  match before with
  | none => .ok (some value)
  | some _ => .error (.repeatedOption name)

/-- A path, which is not empty. -/
def readPath (name text : String) : Except UsageError String :=
  if text = "" then .error (.badValue name) else .ok text

/-- A number of milliseconds. -/
def readDelay (text : String) : Except UsageError UInt64 :=
  (Number.readWord text).mapError fun _ => .badValue "delay-ms"

theorem takeValue_length {name value : String} {attached : Option String}
    {arguments rest : List String}
    (taken : takeValue name attached arguments = .ok (value, rest))
    : rest.length ≤ arguments.length := by
  unfold takeValue at taken
  split at taken
  · cases taken; exact Nat.le_refl _
  · split at taken
    · cases taken; simp
    · cases taken
  · cases taken

-----------------------------------------------------------------------------------------
-- Commands
-----------------------------------------------------------------------------------------

/-- The names of the commands. -/
inductive CommandName
  | run
  | check
  | list
deriving DecidableEq, Repr

/-- The command with a name. -/
def CommandName.ofText? : String → Option CommandName
  | "run" => some .run
  | "check" => some .check
  | "list" => some .list
  | _ => none

/-- What the arguments behind the name of a command tell. -/
structure Told where
  settingsPath : Option String
  file : Option String
  delay : Option UInt64
deriving DecidableEq, Repr

/-- The command that was told, with the settings path told here or before. -/
def CommandName.request (name : CommandName) (outerPath : Option String) (told : Told)
    : Except UsageError Request :=
  let path := told.settingsPath.or outerPath
  match name, told.file with
  | .list, _ => .ok (.command path .list)
  | .run, some file => .ok (.command path (.run file told.delay))
  | .check, some file => .ok (.command path (.check file))
  | _, none => .error .missingFile

/-- Reads a plain text behind the name of a command: the file, if there is none yet. -/
def CommandName.readFile (name : CommandName) (told : Told) (argument : String)
    : Except UsageError Told :=
  if name = .list ∨ told.file.isSome then .error (.unknownArgument argument)
  else (readPath "FILE" argument).map fun file => { told with file := some file }

/-- Reads the arguments behind the name of a command. Behind a divider all are plain texts. -/
def CommandName.read (name : CommandName) (outerPath : Option String) (told : Told) (plain : Bool)
    (arguments : List String) : Except UsageError Request :=
  match arguments with
  | [] => name.request outerPath told
  | argument :: rest =>
    if plain then do name.read outerPath (← name.readFile told argument) true rest
    else
      match formOf argument with
      | .plain => do name.read outerPath (← name.readFile told argument) false rest
      | .divider => name.read outerPath told true rest
      | .short letter =>
        if letter = 'h' then .ok .help else .error (.unknownArgument argument)
      | .long "help" none => .ok .help
      | .long "config" attached =>
        match _taken : takeValue "config" attached rest with
        | .error error => .error error
        | .ok (value, behind) => do
          let path ← setOnce "config" told.settingsPath (← readPath "config" value)
          name.read outerPath { told with settingsPath := path } false behind
      | .long "delay-ms" attached =>
        if name = .run then
          match _taken : takeValue "delay-ms" attached rest with
          | .error error => .error error
          | .ok (value, behind) => do
            let delay ← setOnce "delay-ms" told.delay (← readDelay value)
            name.read outerPath { told with delay := delay } false behind
        else
          .error (.unknownArgument argument)
      | .long .. => .error (.unknownArgument argument)
termination_by arguments.length
decreasing_by
  · exact Nat.lt_succ_self _
  · exact Nat.lt_succ_self _
  · exact Nat.lt_succ_self _
  · exact Nat.lt_succ_of_le (takeValue_length _taken)
  · exact Nat.lt_succ_of_le (takeValue_length _taken)

-----------------------------------------------------------------------------------------
-- All arguments
-----------------------------------------------------------------------------------------

/-- Reads the arguments behind `help`: at most one name, of a command or of `help` itself. -/
def readHelp : List String → Except UsageError Request
  | [] => .ok .help
  | name :: rest =>
    if name = "help" ∨ (CommandName.ofText? name).isSome then
      match rest with
      | [] => .ok .help
      | argument :: _ => .error (.unknownArgument argument)
    else
      .error (.unknownArgument name)

/-- Reads the arguments up to the name of a command, and then those of the command. -/
def readFrom (path : Option String) (arguments : List String) : Except UsageError Request :=
  match arguments with
  | [] => .error .missingCommand
  | argument :: rest =>
    match formOf argument with
    | .plain =>
      match CommandName.ofText? argument with
      | some name => name.read path ⟨none, none, none⟩ false rest
      | none => if argument = "help" then readHelp rest else .error (.unknownArgument argument)
    | .short letter =>
      if letter = 'V' then .ok .version
      else if letter = 'h' then .ok .help
      else .error (.unknownArgument argument)
    | .long "version" none => .ok .version
    | .long "help" none => .ok .help
    | .long "config" attached =>
      match _taken : takeValue "config" attached rest with
      | .error error => .error error
      | .ok (value, behind) => do
        readFrom (← setOnce "config" path (← readPath "config" value)) behind
    | .divider | .long .. => .error (.unknownArgument argument)
termination_by arguments.length
decreasing_by exact Nat.lt_succ_of_le (takeValue_length _taken)

/-- Reads the arguments of the command line. -/
def read (arguments : List String) : Except UsageError Request := readFrom none arguments

end DesktopAutomation.CommandLine
