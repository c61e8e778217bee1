import CueScript.Audio.Device
import CueScript.Audio.Timer
import CueScript.Builtin.Call
import CueScript.Builtin.Files
import CueScript.Builtin.Handlers
import CueScript.Builtin.Names
import CueScript.Builtin.Number
import CueScript.Builtin.Text
import CueScript.Bytes
import CueScript.CommandLine
import CueScript.Decimal.Binary
import CueScript.Decimal.Fixed
import CueScript.Decimal.Reader
import CueScript.Decimal.Shortest
import CueScript.Disk.FileTable
import CueScript.Disk.OpenFile
import CueScript.Disk.Path
import CueScript.Disk.Tree
import CueScript.Encoding.Basic
import CueScript.Encoding.Gb18030
import CueScript.Encoding.GbTable
import CueScript.Encoding.JisTable
import CueScript.Encoding.ShiftJis
import CueScript.Encoding.Unicode
import CueScript.Event
import CueScript.Fault
import CueScript.Format.Piece
import CueScript.Format.Render
import CueScript.Handler.Basic
import CueScript.Handler.Registry
import CueScript.Host
import CueScript.Json.Number
import CueScript.Json.Printer
import CueScript.Json.Reader
import CueScript.Json.Record
import CueScript.Json.Tree
import CueScript.Machine.Create
import CueScript.Machine.Dispatch
import CueScript.Machine.Flow
import CueScript.Machine.Interpreter
import CueScript.Machine.Run
import CueScript.Machine.State
import CueScript.Machine.Statement
import CueScript.Main
import CueScript.Program.Builder
import CueScript.Program.Diagnostic
import CueScript.Program.Function
import CueScript.Program.Instruction
import CueScript.Program.Printer
import CueScript.Program.Reader
import CueScript.Proofs.Machine.Agreement
import CueScript.Proofs.Machine.Simulation
import CueScript.Proofs.Machine.Vocabulary
import CueScript.Scope.Bindings
import CueScript.Scope.Tree
import CueScript.Settings.Basic
import CueScript.Settings.Json
import CueScript.Text.Blank
import CueScript.Text.Lower
import CueScript.Text.Quoted
import CueScript.Text.Search
import CueScript.Value.Basic
import CueScript.Value.Cells
import CueScript.Value.Operator
import CueScript.Value.Store
import CueScript.Proofs.Machine.Builtins
import CueScript.Proofs.Machine.Interpreter
import CueScript.Proofs.Machine.Effects
import CueScript.Proofs.Handler.Registry
import CueScript.Proofs.Machine.Dispatch
import CueScript.Proofs.Handler.Invariant
import CueScript.Proofs.Handler.Frame
import CueScript.Proofs.Handler.History
import CueScript.Proofs.Handler.OneShot
import CueScript.Proofs.Handler.Parking
import CueScript.Proofs.Machine.Steering
import CueScript.Proofs.Machine.Driving
import CueScript.Proofs.Machine.Idle
import CueScript.Proofs.Machine.Signals
import CueScript.Proofs.Machine.Resources
import CueScript.Proofs.Machine.Termination
import CueScript.Proofs.Machine.LoopFree
import CueScript.Proofs.Machine.Deferral
import CueScript.Proofs.Machine.Isolation
import CueScript.Proofs.Disk.Buffering
import CueScript.Proofs.Handler.LoopExit
import CueScript.Proofs.Machine.Posting
import CueScript.Proofs.Disk.Lines
import CueScript.Proofs.Encoding.Tables
import CueScript.Proofs.Encoding.ShiftJis
import CueScript.Proofs.Encoding.Gb18030
import CueScript.Proofs.Encoding.RoundTrip
import CueScript.Proofs.Handler.Ticks
import CueScript.Proofs.Machine.Loops
import CueScript.Proofs.Json.Numerals
import CueScript.Proofs.Json.RoundTrip
import CueScript.Proofs.Machine.ArrayStores
import CueScript.Proofs.Json.Records
import CueScript.Proofs.Program.RoundTrip
import CueScript.Proofs.Handler.Freezing
import CueScript.Proofs.Value.Cells
import CueScript.Proofs.Disk.Handles
import CueScript.Proofs.Handler.StepDetection
import CueScript.Proofs.Scope.Resolution
import CueScript.Proofs.Disk.Numbers
import CueScript.Proofs.Machine.References
import CueScript.Proofs.Machine.Naming
import CueScript.Proofs.Audio.Conservation
import CueScript.Proofs.Format.Pieces
import CueScript.Proofs.Text.Search
import CueScript.Proofs.Disk.Paths
import CueScript.Proofs.Disk.Places
import CueScript.Proofs.Disk.LetterCase
import CueScript.Proofs.Value.Arithmetic
import CueScript.Proofs.Value.LeadingInteger
import CueScript.Proofs.Format.Integers
import CueScript.Proofs.Decimal.Rounding
import CueScript.Proofs.Decimal.Nearest
import CueScript.Proofs.Value.Extremes
