import DesktopAutomation.CommandLine.Basic

/-!
The program: looks at the files of the system, shows the report of the command line, and takes the
time that a run takes.
-/

open DesktopAutomation

/-- What is found at a path of the file system. -/
def lookAtFile (path : String) : IO Lookup := do
  try
    let entries ← (← IO.FS.realPath path).readDir
    return .folder (entries.toList.map (·.fileName))
  catch _ =>
    try
      return .file (← IO.FS.readBinFile path)
    catch
      | .noFileOrDirectory .. => return .missing
      | _ => return .unreachable

/-- The text of an error with its causes below it. -/
def reportText : List String → String
  | [] => ""
  | [error] => "Error: " ++ error
  | [error, cause] => "Error: " ++ error ++ "\n\nCaused by:\n    " ++ cause
  | error :: causes =>
    let numbered := causes.zipIdx.map fun (cause, index) => s!"\n    {index}: {cause}"
    "Error: " ++ error ++ "\n\nCaused by:" ++ String.join numbered

/-- Waits for a number of milliseconds. -/
def waitFor (time : Nat) : IO Unit := do
  let longest := 1000000000
  for _ in [0:time / longest] do
    IO.sleep (UInt32.ofNat longest)
  IO.sleep (UInt32.ofNat (time % longest))

def main (arguments : List String) : IO UInt32 := do
  let names := ["STEPWISE_STEP_DELAY_MS", "STEPWISE_AUTOMATIONS_DIR", "STEPWISE_LOG", "RUST_LOG"]
  let values ← names.mapM fun name => return (name, ← IO.getEnv name)
  match CommandLine.read arguments with
  | .error error => IO.eprintln ("error: " ++ error.message)
  | .ok _ => pure ()
  let report ← CommandLine.execute lookAtFile (fun name => (values.lookup name).join) arguments
  waitFor report.elapsed
  IO.print report.output
  if !report.errors.isEmpty then
    IO.eprintln (reportText report.errors)
  return report.exitCode
