import Scriptlet.Text.Range
import Scriptlet.Text.Letter
import Scriptlet.Text.Digit
import Scriptlet.Text.Blank
import Scriptlet.Text.Printable
import Scriptlet.Text.Case
import Scriptlet.Text.Lines
import Scriptlet.Text.Quoted
import Scriptlet.Text.Utf8
import Scriptlet.Number.Parts
import Scriptlet.Number.Shortest
import Scriptlet.Number.Format
import Scriptlet.Number.Reading
import Scriptlet.Location
import Scriptlet.Diagnostic
import Scriptlet.Kind
import Scriptlet.Fault
import Scriptlet.Token
import Scriptlet.Token.Lexer
import Scriptlet.Assoc
import Scriptlet.Json
import Scriptlet.Json.Writer
import Scriptlet.Json.Reader
import Scriptlet.Text.Split
import Scriptlet.Tree
import Scriptlet.Tree.Outline
import Scriptlet.Tree.Parser
import Scriptlet.Value
import Scriptlet.Host
import Scriptlet.Journal
import Scriptlet.Random.Twister
import Scriptlet.Store
import Scriptlet.Value.Display
import Scriptlet.Value.Equality
import Scriptlet.Value.Convert
import Scriptlet.Value.JsonForm
import Scriptlet.Operator
import Scriptlet.Stack
import Scriptlet.Scope
import Scriptlet.Files.Path
import Scriptlet.Files.Disk
import Scriptlet.Machine
import Scriptlet.Member
import Scriptlet.Scope.Lookup
import Scriptlet.Calendar
import Scriptlet.Library.Signature
import Scriptlet.Library.Methods
import Scriptlet.Library.Math
import Scriptlet.Library.Date
import Scriptlet.Library.Jobs
import Scriptlet.Library.JsonText
import Scriptlet.Library.Native
import Scriptlet.Tree.Source
import Scriptlet.Loading
import Scriptlet.Evaluator
import Scriptlet.Builtin
import Scriptlet.Sample
import Scriptlet.Session
import Scriptlet.Yaml
import Scriptlet.Yaml.Scalar
import Scriptlet.Yaml.Reader
import Scriptlet.Settings
import Scriptlet.Settings.File
import Scriptlet.CommandLine.Arguments
import Scriptlet.CommandLine
import Scriptlet.Main
import Scriptlet.Proofs.Token.Coverage
import Scriptlet.Proofs.Parser.Outcome
import Scriptlet.Proofs.Tree.WellFormed
import Scriptlet.Proofs.Parser.WellFormed
import Scriptlet.Proofs.Tree.Rendering
import Scriptlet.Proofs.Parser.Spelling
import Scriptlet.Proofs.Parser.Operand
import Scriptlet.Proofs.Parser.RoundTrip
import Scriptlet.Proofs.Store.Change
import Scriptlet.Proofs.Machine.Course
import Scriptlet.Proofs.Evaluator.Course
import Scriptlet.Proofs.Scope.Frame
import Scriptlet.Proofs.Evaluator.Completion
import Scriptlet.Proofs.Session.Course
import Scriptlet.Proofs.Evaluator.ControlFlow
import Scriptlet.Proofs.Fault.Answers
import Scriptlet.Proofs.Machine.Keeping
import Scriptlet.Proofs.Store.Growth
import Scriptlet.Proofs.Store.Discipline
import Scriptlet.Proofs.Store.Steady
import Scriptlet.Proofs.Library.Steady
import Scriptlet.Proofs.Evaluator.Steady
import Scriptlet.Proofs.Evaluator.Discipline
import Scriptlet.Proofs.Session.Standard
import Scriptlet.Proofs.Session.Containment
import Scriptlet.Proofs.Session.FieldArrays
import Scriptlet.Proofs.Jobs.Order
import Scriptlet.Proofs.Number.Numeral
import Scriptlet.Proofs.Number.ReadBack
import Scriptlet.Proofs.Json.Reading
import Scriptlet.Proofs.Value.Tree
import Scriptlet.Proofs.Json.RoundTrip
import Scriptlet.Proofs.Session.FieldLaws
import Scriptlet.Proofs.Token.Spacing
import Scriptlet.Proofs.Mirror.Evaluator
import Scriptlet.Proofs.Mirror.Runners
import Scriptlet.Proofs.Session.Composition
import Scriptlet.Proofs.Session.Extension
import Scriptlet.Proofs.Activity.Plan
import Scriptlet.Proofs.Activity.Forms
import Scriptlet.Proofs.Activity.Occurrence
import Scriptlet.Proofs.Activity.Steps
import Scriptlet.Proofs.Activity.Failure
import Scriptlet.Proofs.Activity.Promise
import Scriptlet.Proofs.Activity.Request
import Scriptlet.Proofs.Activity.Depth
import Scriptlet.Proofs.Jobs.Stages
import Scriptlet.Proofs.Jobs.Lasting
import Scriptlet.Proofs.Jobs.Draining
import Scriptlet.Proofs.Jobs.Handles
import Scriptlet.Proofs.Jobs.Closing
import Scriptlet.Proofs.Jobs.Recorded
import Scriptlet.Proofs.Jobs.Places
import Scriptlet.Proofs.Token.Places
import Scriptlet.Proofs.Tree.Spans
import Scriptlet.Proofs.Parser.Borders
import Scriptlet.Proofs.Parser.Places
import Scriptlet.Proofs.Parser.Locality
import Scriptlet.Proofs.Parser.Precedence
import Scriptlet.Proofs.Token.Quoting
import Scriptlet.Proofs.Tree.Nodes
import Scriptlet.Proofs.Activity.Regime
import Scriptlet.Proofs.Session.Regime
import Scriptlet.Proofs.Session.Quoting
import Scriptlet.Proofs.Session.Release
import Scriptlet.Proofs.Tree.Nesting
import Scriptlet.Proofs.Token.Order
import Scriptlet.Proofs.Parser.Position
import Scriptlet.Proofs.Parser.Standing
import Scriptlet.Proofs.Parser.Progress
import Scriptlet.Proofs.Parser.Totality
import Scriptlet.Proofs.Parser.Nesting
import Scriptlet.Proofs.Scope.Reading
import Scriptlet.Proofs.Scope.Paths
import Scriptlet.Proofs.Token.Items
import Scriptlet.Proofs.Parser.Items
import Scriptlet.Proofs.Scope.Items
import Scriptlet.Proofs.Scope.Assignment
import Scriptlet.Proofs.Machine.Loading
import Scriptlet.Proofs.Activity.Trace
import Scriptlet.Proofs.Activity.Marks
import Scriptlet.Proofs.Activity.Construction
import Scriptlet.Proofs.Parser.Allowance
import Scriptlet.Proofs.Mirror.Closed
import Scriptlet.Proofs.Session.Handles
import Scriptlet.Proofs.Session.Rerun
import Scriptlet.Proofs.Token.Literals
import Scriptlet.Proofs.Value.Equality
import Scriptlet.Proofs.Library.Copying
import Scriptlet.Proofs.Evaluator.Methods
import Scriptlet.Proofs.Diagnostic.Carets
import Scriptlet.Proofs.Library.Splitting
import Scriptlet.Proofs.Text.Parts
import Scriptlet.Proofs.Text.Quoted
import Scriptlet.Proofs.Parser.Lookahead
import Scriptlet.Proofs.Tree.Outline
import Scriptlet.Proofs.Parser.Members
import Scriptlet.Proofs.Number.Order
import Scriptlet.Proofs.Library.Extremes
import Scriptlet.Proofs.Settings.Validation
import Scriptlet.Proofs.Library.Dates
