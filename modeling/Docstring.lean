import Docstring.Batch
import Docstring.Check
import Docstring.Codec
import Docstring.CommandLine
import Docstring.Config
import Docstring.Conversion
import Docstring.Detection
import Docstring.Diagnostic
import Docstring.Digest
import Docstring.Document.Basic
import Docstring.Document.Entry
import Docstring.Document.Failure
import Docstring.Document.Head
import Docstring.Document.Layout
import Docstring.Document.Section
import Docstring.Edit.Basic
import Docstring.Edit.Batch
import Docstring.Edit.Hunk
import Docstring.Edit.Span
import Docstring.Enrichment
import Docstring.Fix.Assignment
import Docstring.Fix.Restyle
import Docstring.Fix.ReturnType
import Docstring.Glob
import Docstring.Google.Header
import Docstring.Google.Parser
import Docstring.Google.Printer
import Docstring.Hint
import Docstring.Json
import Docstring.Literal
import Docstring.Main
import Docstring.Normal
import Docstring.Number.Binary64
import Docstring.Number.Decimal
import Docstring.Numpy.Header
import Docstring.Numpy.Parser
import Docstring.Numpy.Printer
import Docstring.Options
import Docstring.Outcome
import Docstring.Path
import Docstring.Proofs.Arranged
import Docstring.Proofs.Canonical
import Docstring.Proofs.Conversion
import Docstring.Proofs.Detection
import Docstring.Proofs.Document.Arranged
import Docstring.Proofs.Document.Broken
import Docstring.Proofs.Document.Canonical
import Docstring.Proofs.Document.Example
import Docstring.Proofs.Document.Flush
import Docstring.Proofs.Document.Hanging
import Docstring.Proofs.Document.Head
import Docstring.Proofs.Document.Kept
import Docstring.Proofs.Document.Mark
import Docstring.Proofs.Document.Outline
import Docstring.Proofs.Document.Reading
import Docstring.Proofs.Document.Rewritten
import Docstring.Proofs.Document.Sectioned
import Docstring.Proofs.Document.Spliced
import Docstring.Proofs.Document.Tidy
import Docstring.Proofs.Document.Tiled
import Docstring.Proofs.Document.Value
import Docstring.Proofs.Document.Walk
import Docstring.Proofs.Document.Whole
import Docstring.Proofs.Document.Wrapped
import Docstring.Proofs.Edit.Application
import Docstring.Proofs.Edit.Batch
import Docstring.Proofs.Edit.Hunk
import Docstring.Proofs.Edit.Span
import Docstring.Proofs.Edit.Window
import Docstring.Proofs.Enrichment
import Docstring.Proofs.Evidence
import Docstring.Proofs.Examples
import Docstring.Proofs.Failure
import Docstring.Proofs.Fix.Again
import Docstring.Proofs.Fix.Agreement
import Docstring.Proofs.Fix.Placed
import Docstring.Proofs.Fix.Rerun
import Docstring.Proofs.Fix.ReturnType
import Docstring.Proofs.Gathering
import Docstring.Proofs.Google.Canonical
import Docstring.Proofs.Google.Example
import Docstring.Proofs.Google.Failure
import Docstring.Proofs.Google.Kept
import Docstring.Proofs.Google.Mark
import Docstring.Proofs.Google.Outline
import Docstring.Proofs.Google.RoundTrip
import Docstring.Proofs.Google.Value
import Docstring.Proofs.Google.Walk
import Docstring.Proofs.Google.Wrapped
import Docstring.Proofs.Google.Written
import Docstring.Proofs.Indentation
import Docstring.Proofs.Kept
import Docstring.Proofs.Literal.Margin
import Docstring.Proofs.Literal.ReadBack
import Docstring.Proofs.Literal.Rebuilt
import Docstring.Proofs.Literal.Replaced
import Docstring.Proofs.Literal.Scan
import Docstring.Proofs.Normal
import Docstring.Proofs.NormalForm
import Docstring.Proofs.Numpy.Canonical
import Docstring.Proofs.Numpy.Counted
import Docstring.Proofs.Numpy.Default
import Docstring.Proofs.Numpy.Example
import Docstring.Proofs.Numpy.Failure
import Docstring.Proofs.Numpy.Kept
import Docstring.Proofs.Numpy.Mark
import Docstring.Proofs.Numpy.Outline
import Docstring.Proofs.Numpy.RoundTrip
import Docstring.Proofs.Numpy.Value
import Docstring.Proofs.Numpy.Walk
import Docstring.Proofs.Numpy.Wrapped
import Docstring.Proofs.Numpy.Written
import Docstring.Proofs.Plain
import Docstring.Proofs.Recognition
import Docstring.Proofs.Relay
import Docstring.Proofs.Reordering
import Docstring.Proofs.Rest.Canonical
import Docstring.Proofs.Rest.Example
import Docstring.Proofs.Rest.Exchange
import Docstring.Proofs.Rest.Failure
import Docstring.Proofs.Rest.Fields
import Docstring.Proofs.Rest.Kept
import Docstring.Proofs.Rest.Mark
import Docstring.Proofs.Rest.Outline
import Docstring.Proofs.Rest.Place
import Docstring.Proofs.Rest.RoundTrip
import Docstring.Proofs.Rest.Tiled
import Docstring.Proofs.Rest.Typed
import Docstring.Proofs.Rest.Value
import Docstring.Proofs.Rest.Walk
import Docstring.Proofs.Rest.Warned
import Docstring.Proofs.Rest.Wrapped
import Docstring.Proofs.Rest.Written
import Docstring.Proofs.Settled
import Docstring.Proofs.Settling
import Docstring.Proofs.Subscript
import Docstring.Proofs.Text.Block
import Docstring.Proofs.Text.Bracket
import Docstring.Proofs.Text.Division
import Docstring.Proofs.Text.Letter
import Docstring.Proofs.Text.Lines
import Docstring.Proofs.Text.Margin
import Docstring.Proofs.Text.Offset
import Docstring.Proofs.Text.Position
import Docstring.Proofs.Text.Prose
import Docstring.Proofs.Text.Search
import Docstring.Proofs.Text.Trim
import Docstring.Proofs.Text.Verbatim
import Docstring.Proofs.Text.Whole
import Docstring.Proofs.Text.Words
import Docstring.Proofs.Text.Wrap
import Docstring.Proofs.Tiled
import Docstring.Proofs.TypePolicy
import Docstring.Proofs.Value
import Docstring.Proofs.Wrapping
import Docstring.Python.Expression
import Docstring.Python.Facts
import Docstring.Python.Fault
import Docstring.Python.Identifier
import Docstring.Python.Lexer
import Docstring.Python.Shape
import Docstring.Python.Statement
import Docstring.Python.Token
import Docstring.Python.Tree
import Docstring.Report.Document
import Docstring.Report.Facts
import Docstring.Report.File
import Docstring.Report.Response
import Docstring.Report.Summary
import Docstring.Rest.Marker
import Docstring.Rest.Parser
import Docstring.Rest.Printer
import Docstring.Run
import Docstring.RunError
import Docstring.Signature
import Docstring.Style
import Docstring.Text.Basic
import Docstring.Text.Class
import Docstring.Text.Indent
import Docstring.Text.Letter
import Docstring.Text.Offset
import Docstring.Text.Wrap
import Docstring.Toml.Basic
import Docstring.Toml.Document
import Docstring.Toml.Scalar
import Docstring.Toml.Text
import Docstring.Workspace
