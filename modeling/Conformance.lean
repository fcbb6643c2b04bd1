import Conformance.Text.Search
import Conformance.Text.Lines
import Conformance.Text.Digit
import Conformance.Text.WordChar
import Conformance.Text.Blank
import Conformance.Text.Utf8
import Conformance.Json
import Conformance.Json.Printer
import Conformance.Json.Reader
import Conformance.Directive
import Conformance.Diagnostic
import Conformance.Marker
import Conformance.Expectations
import Conformance.Fixture
import Conformance.Binary64
import Conformance.Failure
import Conformance.Verdict
import Conformance.Fault
import Conformance.Report
import Conformance.Report.Colored
import Conformance.Report.Document
import Conformance.Interpreter
import Conformance.Status
import Conformance.Yaml.Cursor
import Conformance.Yaml.Scalar
import Conformance.Yaml.Token
import Conformance.Yaml.Node
import Conformance.Yaml.Resolution
import Conformance.Config
import Conformance.Config.Decoder
import Conformance.Config.Document
import Conformance.CommandLine
import Conformance.CommandLine.Reader
import Conformance.Path
import Conformance.Tree
import Conformance.Discovery
import Conformance.Suite
import Conformance.Config.Source
import Conformance.Fixture.Load
import Conformance.Clock
import Conformance.Process
import Conformance.Suite.Run
import Conformance.Program
import Conformance.System.Machine
import Conformance.Main
import Conformance.Proofs.Text.Search
import Conformance.Proofs.Text.Lines
import Conformance.Proofs.Diagnostic
import Conformance.Proofs.Places
import Conformance.Proofs.Scan
import Conformance.Proofs.Verdict
import Conformance.Proofs.CompileErrors
import Conformance.Proofs.ReportSize
import Conformance.Proofs.Directive
import Conformance.Proofs.FixtureLine
import Conformance.Proofs.WholeFixture
import Conformance.Proofs.Expected
import Conformance.Proofs.Kinds
import Conformance.Proofs.Satisfiable
import Conformance.Proofs.LineEnds
import Conformance.Proofs.Languages
import Conformance.Proofs.Work
import Conformance.Proofs.Waiting
import Conformance.Proofs.Outcome
import Conformance.Proofs.Accounting
import Conformance.Proofs.Workers
import Conformance.Proofs.Json.Spelling
import Conformance.Proofs.Json.Printing
import Conformance.Proofs.Json.Number
import Conformance.Proofs.Json.Reading
import Conformance.Proofs.Report.Document
import Conformance.Proofs.Report.Lines
import Conformance.Proofs.Path
import Conformance.Proofs.Tree
import Conformance.Proofs.Discovery
import Conformance.Proofs.Expansion
import Conformance.Proofs.Selection
import Conformance.Proofs.BareErrors
import Conformance.Proofs.Walk
import Conformance.Proofs.Text.Substitution
import Conformance.Proofs.Template
import Conformance.Proofs.Text.Utf8
import Conformance.Proofs.Channel
import Conformance.Proofs.Config.Validation
import Conformance.Proofs.Config.Record
import Conformance.Proofs.Config.Document
import Conformance.Proofs.Config.Keys
import Conformance.Proofs.TimeLimit
import Conformance.Proofs.CommandLine
import Conformance.Proofs.Config.Overrides
import Conformance.Proofs.Report.Colored
import Conformance.Proofs.Tags
import Conformance.Proofs.ErrorSet
import Conformance.Proofs.System.Record
import Conformance.Proofs.System.Machine
import Conformance.Proofs.System.Writing
import Conformance.Proofs.System.Utilities
