import ApiLint.Buffer
import ApiLint.CommandLine.Arguments
import ApiLint.CommandLine.Environment
import ApiLint.CommandLine.Flag
import ApiLint.CommandLine.Run
import ApiLint.CommandLine.Usage
import ApiLint.Diagnostic
import ApiLint.Document
import ApiLint.Eligibility
import ApiLint.FileName
import ApiLint.Files
import ApiLint.Format
import ApiLint.Format.Mail
import ApiLint.Format.Time
import ApiLint.Grammar
import ApiLint.Json.Compare
import ApiLint.Json.Printer
import ApiLint.Json.Reader
import ApiLint.Json.Size
import ApiLint.Json.Value
import ApiLint.Keys
import ApiLint.Lint
import ApiLint.Main
import ApiLint.Number.Double
import ApiLint.Number.Shortest
import ApiLint.Path
import ApiLint.Path.Json
import ApiLint.Path.Numeral
import ApiLint.Pattern
import ApiLint.Pattern.Match
import ApiLint.Pattern.Node
import ApiLint.Pattern.Reader
import ApiLint.Pointer
import ApiLint.Position
import ApiLint.Report
import ApiLint.Report.Listing
import ApiLint.Report.Snippet
import ApiLint.Report.Table
import ApiLint.Report.Tree
import ApiLint.Resolve
import ApiLint.Schema.Assertion
import ApiLint.Schema.Check
import ApiLint.Schema.Combination
import ApiLint.Schema.Draft
import ApiLint.Schema.Finding
import ApiLint.Schema.Frame
import ApiLint.Schema.Holding
import ApiLint.Schema.List
import ApiLint.Schema.Meta
import ApiLint.Schema.Meta.Four
import ApiLint.Schema.Meta.Nineteen
import ApiLint.Schema.Meta.Seven
import ApiLint.Schema.Meta.Six
import ApiLint.Schema.Meta.Twenty
import ApiLint.Schema.Object
import ApiLint.Schema.Registry
import ApiLint.Schema.Source
import ApiLint.Schema.Swagger
import ApiLint.Schema.Swagger.Document
import ApiLint.Schema.Swagger.Form
import ApiLint.Schema.Swagger.Parameter
import ApiLint.Schema.Swagger.Security
import ApiLint.Schema.Swagger.Value
import ApiLint.Schema.Unevaluated
import ApiLint.Schema.Writing
import ApiLint.Text.Base64
import ApiLint.Text.Blank
import ApiLint.Text.Bytes
import ApiLint.Text.Digit
import ApiLint.Text.Hidden
import ApiLint.Text.Lines
import ApiLint.Text.Quoted
import ApiLint.Text.Similarity
import ApiLint.Text.Width
import ApiLint.Token
import ApiLint.Tokenize
import ApiLint.Tree
import ApiLint.Tree.Json
import ApiLint.Tree.Outline
import ApiLint.Tree.Yaml
import ApiLint.Tree.Yaml.Scalar
import ApiLint.Uri
import ApiLint.Validation
import ApiLint.Validator
import ApiLint.Yaml.Document
import ApiLint.Yaml.Event
import ApiLint.Yaml.Fault
import ApiLint.Yaml.Json
import ApiLint.Yaml.Plain
import ApiLint.Yaml.Printer
import ApiLint.Yaml.Spot
import ApiLint.Yaml.Token
import ApiLint.Yaml.Token.Scalar
import ApiLint.Yaml.Token.Stream
import ApiLint.Yaml.Token.Tag
import ApiLint.Yaml.Value
import ApiLint.Proofs.Position
import ApiLint.Proofs.Position.Offset
import ApiLint.Proofs.Range
import ApiLint.Proofs.Resolve
import ApiLint.Proofs.Keys
import ApiLint.Proofs.Tokenize
import ApiLint.Proofs.Tokenize.Tree
import ApiLint.Proofs.KeyChain
import ApiLint.Proofs.Buffer
import ApiLint.Proofs.Lint
import ApiLint.Proofs.Tokenize.Lines
import ApiLint.Proofs.Path.Numeral
import ApiLint.Proofs.Path
import ApiLint.Proofs.Tokenize.Names
import ApiLint.Proofs.Validator
import ApiLint.Proofs.Diagnostic
import ApiLint.Proofs.Resolve.Order
import ApiLint.Proofs.Lint.Shown
import ApiLint.Proofs.Lint.Grammar
import ApiLint.Proofs.CommandLine
import ApiLint.Proofs.CommandLine.Code
import ApiLint.Proofs.Validator.Alternatives
import ApiLint.Proofs.Resolve.Greedy
import ApiLint.Proofs.CommandLine.Linting
import ApiLint.Proofs.Json.Scalar
import ApiLint.Proofs.Json.Written
import ApiLint.Proofs.Report.Listing
import ApiLint.Proofs.Report.Table
import ApiLint.Proofs.CommandLine.Formats
import ApiLint.Proofs.Text.Run
import ApiLint.Proofs.Path.Notation
import ApiLint.Proofs.Resolve.Spelling
import ApiLint.Proofs.Eligibility
import ApiLint.Proofs.Json.Object
import ApiLint.Proofs.Yaml.Json
import ApiLint.Proofs.Path.Display
import ApiLint.Proofs.Outline
import ApiLint.Proofs.Report.Tree
import ApiLint.Proofs.Tree.Outline
import ApiLint.Proofs.Path.Json
import ApiLint.Proofs.Tree.Search
