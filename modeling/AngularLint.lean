import AngularLint.Abort
import AngularLint.Angular.Binding
import AngularLint.Angular.Controller
import AngularLint.Angular.Registration
import AngularLint.CommandLine.Arguments
import AngularLint.CommandLine.Invocation
import AngularLint.CommandLine.Response
import AngularLint.Config.Load
import AngularLint.Config.Setting
import AngularLint.Decimal.Layout
import AngularLint.Decimal.Reading
import AngularLint.Decimal.Shortest
import AngularLint.Diagnostic
import AngularLint.Document.Basic
import AngularLint.Document.Calendar
import AngularLint.Document.OfJson
import AngularLint.Document.Scalar
import AngularLint.Document.SetOrder
import AngularLint.Dump
import AngularLint.Fault
import AngularLint.Files.Fault
import AngularLint.Files.Tree
import AngularLint.Json.Basic
import AngularLint.Json.Fault
import AngularLint.Json.Reader
import AngularLint.Json.Writer
import AngularLint.Limits
import AngularLint.Linter
import AngularLint.Main
import AngularLint.Proofs.Angular.Failure
import AngularLint.Proofs.Angular.Hook
import AngularLint.Proofs.Angular.Name
import AngularLint.Proofs.Angular.Part
import AngularLint.Proofs.Angular.Registration
import AngularLint.Proofs.Angular.Unplaced
import AngularLint.Proofs.CommandLine.Analyze
import AngularLint.Proofs.CommandLine.Composition
import AngularLint.Proofs.CommandLine.Consumption
import AngularLint.Proofs.CommandLine.Layout
import AngularLint.Proofs.CommandLine.Order
import AngularLint.Proofs.CommandLine.Words
import AngularLint.Proofs.CommandLine.Written
import AngularLint.Proofs.Config.Acceptance
import AngularLint.Proofs.Config.Load
import AngularLint.Proofs.Config.Options
import AngularLint.Proofs.Config.Setting
import AngularLint.Proofs.Config.Severity
import AngularLint.Proofs.Except
import AngularLint.Proofs.Json.Reader
import AngularLint.Proofs.Linter.Answer
import AngularLint.Proofs.Linter.Calls
import AngularLint.Proofs.Linter.Coverage
import AngularLint.Proofs.Linter.Enlistment
import AngularLint.Proofs.Linter.Failure
import AngularLint.Proofs.Linter.Independence
import AngularLint.Proofs.Linter.Life
import AngularLint.Proofs.Linter.Locality
import AngularLint.Proofs.Linter.Pairing
import AngularLint.Proofs.Linter.Requests
import AngularLint.Proofs.Linter.Share
import AngularLint.Proofs.Linter.Steady
import AngularLint.Proofs.Linter.Unplaced
import AngularLint.Proofs.Linter.Validated
import AngularLint.Proofs.Rule.Failure
import AngularLint.Proofs.Rule.OnInit
import AngularLint.Proofs.Rule.Pattern
import AngularLint.Proofs.Rule.Rename
import AngularLint.Proofs.Rule.Slot
import AngularLint.Proofs.Rule.Substitution
import AngularLint.Proofs.Rule.TwoWayBinding
import AngularLint.Proofs.Rule.Work
import AngularLint.Proofs.Tree.Descent
import AngularLint.Proofs.Tree.Finite
import AngularLint.Proofs.Tree.Hydration
import AngularLint.Proofs.Tree.Link
import AngularLint.Proofs.Tree.Listing
import AngularLint.Proofs.Tree.Lookup
import AngularLint.Proofs.Tree.Preorder
import AngularLint.Proofs.Tree.Route
import AngularLint.Proofs.Tree.Spine
import AngularLint.Proofs.Tree.Trail
import AngularLint.Proofs.Tree.Unplaced
import AngularLint.Proofs.Yaml.Keys
import AngularLint.Rule.Basic
import AngularLint.Rule.OnInit
import AngularLint.Rule.Registry
import AngularLint.Rule.Template
import AngularLint.Rule.TestFilename
import AngularLint.Rule.TwoWayBinding
import AngularLint.Rule.Violation
import AngularLint.Run
import AngularLint.Text.Base64
import AngularLint.Text.Basic
import AngularLint.Text.Blank
import AngularLint.Text.Cased
import AngularLint.Text.CodePoint
import AngularLint.Text.Digit
import AngularLint.Text.Integer
import AngularLint.Text.Lines
import AngularLint.Text.Lower
import AngularLint.Text.Printable
import AngularLint.Text.Quoted
import AngularLint.Text.Ranges
import AngularLint.Text.Shown
import AngularLint.Text.Stream
import AngularLint.Text.Utf8
import AngularLint.Total
import AngularLint.Tree.Chain
import AngularLint.Tree.Hydrate
import AngularLint.Tree.Node
import AngularLint.Tree.Object
import AngularLint.Tree.Path
import AngularLint.Tree.Range
import AngularLint.Tree.Shown
import AngularLint.Tree.Walk
import AngularLint.Yaml.Event
import AngularLint.Yaml.Fault
import AngularLint.Yaml.Glyph
import AngularLint.Yaml.Kind
import AngularLint.Yaml.Load
import AngularLint.Yaml.Merge
import AngularLint.Yaml.Node
import AngularLint.Yaml.ScalarValue
import AngularLint.Yaml.Series
import AngularLint.Yaml.Source
import AngularLint.Yaml.Token
import AngularLint.Yaml.Token.Property
import AngularLint.Yaml.Token.Scalar
import AngularLint.Yaml.Token.Scanner
