import LinePipe.Text.Basic
import LinePipe.Text.CharClass
import LinePipe.Text.Blank
import LinePipe.Text.Digit
import LinePipe.Text.Printable
import LinePipe.Text.Quoted
import LinePipe.Text.Integer
import LinePipe.Text.CaseTable
import LinePipe.Text.Case
import LinePipe.Text.LineBreak
import LinePipe.Text.Utf8
import LinePipe.Text.Style
import LinePipe.Log.Level
import LinePipe.Outcome
import LinePipe.Collation.Key
import LinePipe.Collation.Locale
import LinePipe.Pipeline.Error
import LinePipe.Pipeline.Token
import LinePipe.Pipeline.Stage
import LinePipe.Pipeline.Basic
import LinePipe.Command.Registry
import LinePipe.Command.HelpDocument
import LinePipe.Command.Builtin
import LinePipe.Pipeline.Parse
import LinePipe.Buffer.Region
import LinePipe.Settings.Newline
import LinePipe.Buffer.Basic
import LinePipe.Files.Path
import LinePipe.Number.Decimal
import LinePipe.Value.Calendar
import LinePipe.Value.Basic
import LinePipe.Files.Access
import LinePipe.Files.Tree
import LinePipe.Settings.Layer
import LinePipe.Toml.Calendar
import LinePipe.Toml.Number
import LinePipe.Toml.Section
import LinePipe.Toml.Document
import LinePipe.Settings.Load
import LinePipe.Edit
import LinePipe.Session
import LinePipe.Log.Line
import LinePipe.Log.Template
import LinePipe.Console.Basic
import LinePipe.Console.Colour
import LinePipe.Console.Verbosity
import LinePipe.Markdown.Table
import LinePipe.CommandLine.HelpPage
import LinePipe.Json
import LinePipe.CommandLine.Commands
import LinePipe.CommandLine.Failure
import LinePipe.CommandLine.Request
import LinePipe.CommandLine.Apply
import LinePipe.CommandLine.Program
import LinePipe.CommandLine.Footprint
import LinePipe.Main
import LinePipe.Proofs.Distinct
import LinePipe.Proofs.Text.Digit
import LinePipe.Proofs.Text.Case
import LinePipe.Proofs.Collation.Order
import LinePipe.Proofs.Collation.Sorting
import LinePipe.Proofs.Outcome
import LinePipe.Proofs.Command.Registry
import LinePipe.Proofs.Pipeline.Execution
import LinePipe.Proofs.Pipeline.Tokens
import LinePipe.Proofs.Pipeline.Building
import LinePipe.Proofs.Pipeline.Composition
import LinePipe.Proofs.Pipeline.NormalForm
import LinePipe.Proofs.Pipeline.Language
import LinePipe.Proofs.Pipeline.Canonical
import LinePipe.Proofs.Pipeline.Checking
import LinePipe.Proofs.Pipeline.Sink
import LinePipe.Proofs.Edit
import LinePipe.Proofs.Text.Escapes
import LinePipe.Proofs.Text.LineBreak
import LinePipe.Proofs.Text.Rebreak
import LinePipe.Proofs.Text.Words
import LinePipe.Proofs.Text.Utf8
import LinePipe.Proofs.Files.Tree
import LinePipe.Proofs.Files.Alike
import LinePipe.Proofs.Settings.Loading
import LinePipe.Proofs.Buffer.Basic
import LinePipe.Proofs.Buffer.RoundTrip
import LinePipe.Proofs.Text.Integer
import LinePipe.Proofs.Buffer.Region
import LinePipe.Proofs.CommandLine.Run
import LinePipe.Proofs.CommandLine.Delivery
import LinePipe.Proofs.CommandLine.Input
import LinePipe.Proofs.CommandLine.Keeping
import LinePipe.Proofs.CommandLine.Arguments
import LinePipe.Proofs.CommandLine.Checks
import LinePipe.Proofs.CommandLine.Precedence
import LinePipe.Proofs.CommandLine.Checking
import LinePipe.Proofs.CommandLine.Breakdowns
import LinePipe.Proofs.CommandLine.Refinement
import LinePipe.Proofs.Collation.Runs
import LinePipe.Proofs.Buffer.Replacing
import LinePipe.Proofs.Edit.FinalBreak
import LinePipe.Proofs.Pipeline.Settled
import LinePipe.Proofs.Pipeline.FirstOccurrence
import LinePipe.Proofs.Text.BreakStyle
import LinePipe.Proofs.Buffer.Reread
import LinePipe.Proofs.Edit.Again
import LinePipe.Proofs.Session
import LinePipe.Proofs.Settings.Search
import LinePipe.Proofs.Settings.Discovery
import LinePipe.Proofs.Settings.Reading
import LinePipe.Proofs.Settings.Overriding
import LinePipe.Proofs.Settings.Layering
import LinePipe.Proofs.Settings.Failing
import LinePipe.Proofs.Settings.Root
import LinePipe.Proofs.Pipeline.Help
import LinePipe.Proofs.CommandLine.Verbosity
import LinePipe.Proofs.Pipeline.FirstFailure
import LinePipe.Proofs.Text.CharClass
import LinePipe.Proofs.Text.CaseTable
import LinePipe.Proofs.Text.SwapCase
import LinePipe.Proofs.Collation.CaseVariant
import LinePipe.Proofs.Collation.Ties
import LinePipe.Proofs.Collation.Prefix
import LinePipe.Proofs.Collation.Digitless
import LinePipe.Proofs.Pipeline.Layout
import LinePipe.Proofs.Buffer.Lens
import LinePipe.Proofs.Buffer.Range
import LinePipe.Proofs.Markdown.Table
import LinePipe.Proofs.Log.Level
import LinePipe.Proofs.CommandLine.LogLevel
import LinePipe.Proofs.Json
import LinePipe.Proofs.CommandLine.Validity
