import DesktopAutomation.Backend.Dispatch
import DesktopAutomation.Backend.Virtual
import DesktopAutomation.CommandLine.Arguments
import DesktopAutomation.CommandLine.Basic
import DesktopAutomation.Document.Basic
import DesktopAutomation.Document.Reading
import DesktopAutomation.Document.Validity
import DesktopAutomation.Editor.Session
import DesktopAutomation.Environment
import DesktopAutomation.Error
import DesktopAutomation.Json.Basic
import DesktopAutomation.Json.Literal
import DesktopAutomation.Json.Printer
import DesktopAutomation.Json.Raw
import DesktopAutomation.Json.Record
import DesktopAutomation.Json.Token
import DesktopAutomation.Main
import DesktopAutomation.NameMap
import DesktopAutomation.Number.Binary64
import DesktopAutomation.Number.Decimal
import DesktopAutomation.Number.Natural
import DesktopAutomation.Number.Power
import DesktopAutomation.Number.Shortest
import DesktopAutomation.Proofs.Document.RoundTrip
import DesktopAutomation.Proofs.Document.Validity
import DesktopAutomation.Proofs.Editor.Consistency
import DesktopAutomation.Proofs.Editor.Operation
import DesktopAutomation.Proofs.Editor.Ownership
import DesktopAutomation.Proofs.Editor.Replacement
import DesktopAutomation.Proofs.Editor.Storing
import DesktopAutomation.Proofs.Environment.Bindings
import DesktopAutomation.Proofs.Environment.RoundTrip
import DesktopAutomation.Proofs.Environment.Shadows
import DesktopAutomation.Proofs.Json.Canonical
import DesktopAutomation.Proofs.Json.Lexing
import DesktopAutomation.Proofs.Json.Numbers
import DesktopAutomation.Proofs.Json.Record
import DesktopAutomation.Proofs.Json.RoundTrip
import DesktopAutomation.Proofs.NameMap
import DesktopAutomation.Proofs.Number.Digits
import DesktopAutomation.Proofs.Run.Cycle
import DesktopAutomation.Proofs.Run.Interruption
import DesktopAutomation.Proofs.Run.Moments
import DesktopAutomation.Proofs.Run.Passage
import DesktopAutomation.Proofs.Run.Relation
import DesktopAutomation.Proofs.Step.RoundTrip
import DesktopAutomation.Proofs.Text.Case
import DesktopAutomation.Proofs.Timestamp.RoundTrip
import DesktopAutomation.Proofs.Tree.Accounting
import DesktopAutomation.Proofs.Variable.RoundTrip
import DesktopAutomation.Run.Action
import DesktopAutomation.Run.Basic
import DesktopAutomation.Settings
import DesktopAutomation.Step.Basic
import DesktopAutomation.Step.Condition
import DesktopAutomation.Step.Id
import DesktopAutomation.Step.Input
import DesktopAutomation.Step.Record
import DesktopAutomation.Store.Basic
import DesktopAutomation.Store.Disk
import DesktopAutomation.Store.FileTree
import DesktopAutomation.Store.Folder
import DesktopAutomation.Store.Saving
import DesktopAutomation.Text.Blank
import DesktopAutomation.Text.Case
import DesktopAutomation.Text.Quoted
import DesktopAutomation.Text.Slug
import DesktopAutomation.Text.Split
import DesktopAutomation.Text.Unicode.AsciiBase
import DesktopAutomation.Text.Unicode.CaseRun
import DesktopAutomation.Text.Unicode.Cased
import DesktopAutomation.Text.Unicode.Lower
import DesktopAutomation.Text.Unicode.Printable
import DesktopAutomation.Text.Unicode.Upper
import DesktopAutomation.Timestamp.Basic
import DesktopAutomation.Timestamp.Reading
import DesktopAutomation.Toml.Basic
import DesktopAutomation.Toml.Reading
import DesktopAutomation.Toml.Scalar
import DesktopAutomation.Tree.Basic
import DesktopAutomation.Tree.Edit
import DesktopAutomation.Tree.Position
import DesktopAutomation.Tree.Walk
import DesktopAutomation.Variable.Basic
import DesktopAutomation.Variable.Value
import DesktopAutomation.Proofs.Run.Calls
import DesktopAutomation.Proofs.Run.Offline
import DesktopAutomation.Proofs.Run.Cancellation
import DesktopAutomation.Proofs.Run.Timing
import DesktopAutomation.Proofs.Store.Folder
import DesktopAutomation.Proofs.Store.Keeping
import DesktopAutomation.Proofs.Editor.Removal
import DesktopAutomation.Proofs.Editor.Admission
import DesktopAutomation.Proofs.Editor.Spelling
import DesktopAutomation.Proofs.Store.Race
import DesktopAutomation.Proofs.Editor.Pointer
import DesktopAutomation.Proofs.Tree.Identity
import DesktopAutomation.Proofs.Document.Variables
import DesktopAutomation.Proofs.Document.Steps
import DesktopAutomation.Proofs.Tree.Position
import DesktopAutomation.Proofs.Run.Stopping
import DesktopAutomation.Proofs.CommandLine.Report
import DesktopAutomation.Proofs.Editor.Capture
import DesktopAutomation.Proofs.Tree.Nesting
import DesktopAutomation.Proofs.Editor.Version
import DesktopAutomation.Proofs.Tree.Pruning
import DesktopAutomation.Proofs.Editor.Clearing
import DesktopAutomation.Proofs.Editor.Undoing
import DesktopAutomation.Proofs.Step.Usage
import DesktopAutomation.Proofs.Run.Lockstep
import DesktopAutomation.Proofs.Run.Pacing
import DesktopAutomation.Proofs.Run.Grouping
import DesktopAutomation.Proofs.Run.Writing
import DesktopAutomation.Proofs.Number.Numerals
import DesktopAutomation.Proofs.Variable.NumberReading
import DesktopAutomation.Proofs.Run.Comparison
import DesktopAutomation.Proofs.Store.Footprint
import DesktopAutomation.Proofs.Editor.Freshness
import DesktopAutomation.Proofs.Document.FirstViolation
import DesktopAutomation.Proofs.Variable.Verbatim
import DesktopAutomation.Proofs.Environment.Cascade
import DesktopAutomation.Proofs.Document.Parts
import DesktopAutomation.Proofs.Document.Rearrangement
import DesktopAutomation.Proofs.Tree.Extraction
import DesktopAutomation.Proofs.Tree.Sites
import DesktopAutomation.Proofs.Tree.Undoing
import DesktopAutomation.Proofs.Environment.Changes
import DesktopAutomation.Proofs.Run.Texts
import DesktopAutomation.Proofs.Tree.Moving
import DesktopAutomation.Proofs.Store.FileNames
import DesktopAutomation.Proofs.Tree.Cursors
import DesktopAutomation.Proofs.Store.Paths
import DesktopAutomation.Proofs.Store.Confinement
