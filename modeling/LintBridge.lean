import LintBridge.Assoc
import LintBridge.Checked
import LintBridge.CommandLine.Arguments
import LintBridge.CommandLine.Run
import LintBridge.CommandLine.Setup
import LintBridge.Decimal.Binary64
import LintBridge.Decimal.Fixed
import LintBridge.Decimal.Integer
import LintBridge.Decimal.Numeral
import LintBridge.Decimal.Rounding
import LintBridge.Decimal.Shortest
import LintBridge.Expression.Basic
import LintBridge.Expression.Call
import LintBridge.Expression.Display
import LintBridge.Expression.Escape
import LintBridge.Expression.Fault
import LintBridge.Expression.Lexer
import LintBridge.Expression.Loop
import LintBridge.Expression.Numeral
import LintBridge.Expression.Operator
import LintBridge.Expression.Parameter
import LintBridge.Expression.Parser
import LintBridge.Expression.Reader
import LintBridge.Expression.Template
import LintBridge.Expression.Token
import LintBridge.Expression.Value
import LintBridge.Json
import LintBridge.Json.Reader
import LintBridge.Linter.Failure
import LintBridge.Linter.Lint
import LintBridge.Linter.Probe
import LintBridge.Linter.Readiness
import LintBridge.Linter.Verification
import LintBridge.Machine.Basic
import LintBridge.Machine.Description
import LintBridge.Machine.Lookup
import LintBridge.Machine.Path
import LintBridge.Machine.Process
import LintBridge.Machine.Program
import LintBridge.Machine.Ran
import LintBridge.Main
import LintBridge.Note
import LintBridge.Project
import LintBridge.Report.Basic
import LintBridge.Report.Decode
import LintBridge.Report.Envelope
import LintBridge.Report.Offset
import LintBridge.Report.Position
import LintBridge.Report.Problem
import LintBridge.Report.ReadError
import LintBridge.Roster
import LintBridge.Settings.Basic
import LintBridge.Settings.Check
import LintBridge.Settings.Load
import LintBridge.Severity
import LintBridge.Terminal.Action
import LintBridge.Terminal.Columns
import LintBridge.Terminal.Console
import LintBridge.Terminal.Fold
import LintBridge.Terminal.Markup
import LintBridge.Terminal.Style
import LintBridge.Terminal.Tab
import LintBridge.Terminal.Table
import LintBridge.Terminal.Width
import LintBridge.Text.Blank
import LintBridge.Text.CharacterName
import LintBridge.Text.DecimalDigit
import LintBridge.Text.Half
import LintBridge.Text.Hexadecimal
import LintBridge.Text.Letter
import LintBridge.Text.LetterCase
import LintBridge.Text.Newline
import LintBridge.Text.Printable
import LintBridge.Text.Quoted
import LintBridge.Text.Ranges
import LintBridge.Text.Search
import LintBridge.Text.Utf8
import LintBridge.Text.Words
import LintBridge.Toml.Document
import LintBridge.Toml.Number
import LintBridge.Toml.Reader
import LintBridge.Toml.Table
import LintBridge.Toml.Text
import LintBridge.Toml.Value
import LintBridge.Version
import LintBridge.Proofs.Json.StringBody
import LintBridge.Proofs.Text.Blank
import LintBridge.Proofs.Text.Search
import LintBridge.Proofs.Decimal.Digits
import LintBridge.Proofs.Json.Numeral
import LintBridge.Proofs.Json.Document
import LintBridge.Proofs.Json.Reader
import LintBridge.Proofs.Json.Quotation
import LintBridge.Proofs.Report.Decode
import LintBridge.Proofs.Report.Translation
import LintBridge.Proofs.Json.Writer
import LintBridge.Proofs.Report.RoundTrip
import LintBridge.Proofs.Json.Whole
import LintBridge.Proofs.Report.Isolation
import LintBridge.Proofs.Report.Acceptance
import LintBridge.Proofs.Machine.Path
import LintBridge.Proofs.Linter.Readiness
import LintBridge.Proofs.Machine.Command
import LintBridge.Proofs.Linter.Launches
import LintBridge.Proofs.Linter.Publication
import LintBridge.Proofs.Linter.Directory
import LintBridge.Proofs.Text.Utf8
import LintBridge.Proofs.Report.Position
import LintBridge.Proofs.CommandLine.Entry
import LintBridge.Proofs.Machine.Scripts
import LintBridge.Proofs.Linter.Status
import LintBridge.Proofs.Json.Limits
import LintBridge.Proofs.Report.Limits
import LintBridge.Proofs.Terminal.Console
import LintBridge.Proofs.CommandLine.Finding
import LintBridge.Proofs.CommandLine.Lint
import LintBridge.Proofs.Json.Container
import LintBridge.Proofs.Report.Trailing
import LintBridge.Proofs.Decimal.Integer
import LintBridge.Proofs.Version
import LintBridge.Proofs.Settings.Check
import LintBridge.Proofs.Machine.Lookup
import LintBridge.Proofs.Linter.Verification
import LintBridge.Proofs.Text.Newline
import LintBridge.Proofs.Toml.Reading
import LintBridge.Proofs.Toml.Number
import LintBridge.Proofs.Toml.Limits
import LintBridge.Proofs.Toml.Excess
import LintBridge.Proofs.Settings.Load
import LintBridge.Proofs.Report.Payload
import LintBridge.Proofs.Version.Order
import LintBridge.Proofs.Linter.Probe
import LintBridge.Proofs.Project.Nearest
import LintBridge.Proofs.Machine.Place
import LintBridge.Proofs.Project.Containment
import LintBridge.Proofs.Machine.Program
import LintBridge.Proofs.Linter.Executable
import LintBridge.Proofs.Assoc
import LintBridge.Proofs.Settings.Precedence
import LintBridge.Proofs.Settings.Stable
import LintBridge.Proofs.Report.PositionOrder
import LintBridge.Proofs.Linter.Anchoring
import LintBridge.Proofs.Roster
import LintBridge.Proofs.Terminal.Colour
import LintBridge.Proofs.Text.Printable
import LintBridge.Proofs.Terminal.Width
import LintBridge.Proofs.Terminal.Markup
import LintBridge.Proofs.Terminal.Fold
import LintBridge.Proofs.Terminal.Columns
import LintBridge.Proofs.Terminal.Table
import LintBridge.Proofs.CommandLine.Setup
