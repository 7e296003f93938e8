import LayoutCipher.Cipher.Amount
import LayoutCipher.Cipher.Check
import LayoutCipher.Cipher.Parse
import LayoutCipher.Command
import LayoutCipher.CommandLine.Basic
import LayoutCipher.CommandLine.Help
import LayoutCipher.CommandLine.Parse
import LayoutCipher.Event
import LayoutCipher.Failure.Basic
import LayoutCipher.Failure.Report
import LayoutCipher.Fault
import LayoutCipher.Grid.Basic
import LayoutCipher.Grid.Layout
import LayoutCipher.Grid.Lookup
import LayoutCipher.Json.Printer
import LayoutCipher.Json.Reader
import LayoutCipher.LogLevel
import LayoutCipher.LogLine
import LayoutCipher.Logged
import LayoutCipher.Main
import LayoutCipher.Operation.Apply
import LayoutCipher.Operation.Basic
import LayoutCipher.Operation.Json
import LayoutCipher.Program
import LayoutCipher.Proofs.Access.Grids
import LayoutCipher.Proofs.Access.Guarded
import LayoutCipher.Proofs.Access.Lookups
import LayoutCipher.Proofs.Access.Safety
import LayoutCipher.Proofs.Access.Texts
import LayoutCipher.Proofs.Cipher.Amounts
import LayoutCipher.Proofs.Cipher.Canonical
import LayoutCipher.Proofs.Cipher.Concatenation
import LayoutCipher.Proofs.Cipher.FirstFault
import LayoutCipher.Proofs.Cipher.Grammar
import LayoutCipher.Proofs.Cipher.Passes
import LayoutCipher.Proofs.Cipher.Positions
import LayoutCipher.Proofs.Cipher.Reading
import LayoutCipher.Proofs.Cipher.RoundTrip
import LayoutCipher.Proofs.Cipher.Scanning
import LayoutCipher.Proofs.Command.Agreement
import LayoutCipher.Proofs.Command.Dependence
import LayoutCipher.Proofs.Command.ExitStatus
import LayoutCipher.Proofs.Command.Formats
import LayoutCipher.Proofs.Command.Outcomes
import LayoutCipher.Proofs.CommandLine.Verbosity
import LayoutCipher.Proofs.CommandLine.Writing
import LayoutCipher.Proofs.Failure.Wrapping
import LayoutCipher.Proofs.Grid.Cells
import LayoutCipher.Proofs.Grid.Construction
import LayoutCipher.Proofs.Grid.Display
import LayoutCipher.Proofs.Grid.FirstDefect
import LayoutCipher.Proofs.Grid.Index
import LayoutCipher.Proofs.Grid.Lookup
import LayoutCipher.Proofs.Grid.Reachable
import LayoutCipher.Proofs.Json.Leniency
import LayoutCipher.Proofs.Json.Literals
import LayoutCipher.Proofs.Json.RoundTrip
import LayoutCipher.Proofs.Layout.Composition
import LayoutCipher.Proofs.Layout.Execution
import LayoutCipher.Proofs.Layout.Inverse
import LayoutCipher.Proofs.Layout.Log
import LayoutCipher.Proofs.Layout.Repetition
import LayoutCipher.Proofs.Layout.Retyping
import LayoutCipher.Proofs.Layout.Stages
import LayoutCipher.Proofs.Layout.Substitution
import LayoutCipher.Proofs.Layout.Typing
import LayoutCipher.Proofs.Operation.ColumnMap
import LayoutCipher.Proofs.Operation.Encoding
import LayoutCipher.Proofs.Operation.Inverse
import LayoutCipher.Proofs.Operation.NormalForm
import LayoutCipher.Proofs.Operation.Rearrangement
import LayoutCipher.Proofs.Operation.Rotation
import LayoutCipher.Proofs.Operation.Source
import LayoutCipher.Proofs.Program.Dependence
import LayoutCipher.Proofs.Settings.Layers
import LayoutCipher.Proofs.Settings.Levels
import LayoutCipher.Proofs.Settings.Overlays
import LayoutCipher.Proofs.Text.Decimal
import LayoutCipher.Proofs.Text.Lower
import LayoutCipher.Retype
import LayoutCipher.Settings.Basic
import LayoutCipher.Settings.Document
import LayoutCipher.Settings.Load
import LayoutCipher.Text.Lower
import LayoutCipher.Text.Numeral
import LayoutCipher.Text.Quoted
import LayoutCipher.Text.Raw
import LayoutCipher.Toml.Basic
import LayoutCipher.Toml.Moment
import LayoutCipher.Toml.Number
import LayoutCipher.Toml.Reader
import LayoutCipher.Toml.Scalar
import LayoutCipher.Toml.Text
import LayoutCipher.Unicode.CaseTables
import LayoutCipher.Unicode.PrintTables
