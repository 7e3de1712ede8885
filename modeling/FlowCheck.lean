import FlowCheck.Command.Arguments
import FlowCheck.Command.Report
import FlowCheck.Condition.Basic
import FlowCheck.Condition.Eval
import FlowCheck.Condition.Parser
import FlowCheck.Diagnostic
import FlowCheck.Document
import FlowCheck.Expression.CustomRules
import FlowCheck.Expression.Template
import FlowCheck.Fault
import FlowCheck.Format.Date
import FlowCheck.Format.DomainName
import FlowCheck.Format.Email
import FlowCheck.Format.Host
import FlowCheck.Format.Punycode
import FlowCheck.Format.Url
import FlowCheck.Format.Uuid
import FlowCheck.Hints.Example
import FlowCheck.Hints.FieldPath
import FlowCheck.Hints.Hint
import FlowCheck.Hints.Options
import FlowCheck.Json.Basic
import FlowCheck.Json.Describe
import FlowCheck.Json.Reader
import FlowCheck.Json.Writer
import FlowCheck.Main
import FlowCheck.Model.Action
import FlowCheck.Model.FieldRule
import FlowCheck.Model.Input
import FlowCheck.Model.Run
import FlowCheck.Model.Workflow
import FlowCheck.Number.Binary64
import FlowCheck.Number.Numeral
import FlowCheck.Number.Shortest
import FlowCheck.Number.Word
import FlowCheck.Pattern.Bracket
import FlowCheck.Pattern.Compile
import FlowCheck.Pattern.Cursor
import FlowCheck.Pattern.Escape
import FlowCheck.Pattern.Matcher
import FlowCheck.Pattern.Meaning
import FlowCheck.Pattern.Position
import FlowCheck.Pattern.Problem
import FlowCheck.Pattern.Property
import FlowCheck.Pattern.Reader
import FlowCheck.Pattern.Size
import FlowCheck.Pattern.Syntax
import FlowCheck.Project.Files
import FlowCheck.Project.Load
import FlowCheck.Project.Path
import FlowCheck.Proofs.Condition.Cut
import FlowCheck.Proofs.Condition.Grammar
import FlowCheck.Proofs.Condition.Mark
import FlowCheck.Proofs.Condition.Operand
import FlowCheck.Proofs.Condition.Parsing
import FlowCheck.Proofs.Condition.Printing
import FlowCheck.Proofs.Number.Numeral
import FlowCheck.Proofs.Rules.Workflow
import FlowCheck.Proofs.Schema.Allowed
import FlowCheck.Proofs.Text.Pieces
import FlowCheck.Proofs.Text.Trim
import FlowCheck.Proofs.Wire.Reading
import FlowCheck.Request.Check
import FlowCheck.Request.Field
import FlowCheck.Request.PatternCache
import FlowCheck.Rules.Basic
import FlowCheck.Rules.Input
import FlowCheck.Rules.Resource
import FlowCheck.Rules.Workflow
import FlowCheck.Schema.Basic
import FlowCheck.Schema.Check
import FlowCheck.Schema.Pointer
import FlowCheck.Schema.ResourceDocument
import FlowCheck.Schema.Violation
import FlowCheck.Schema.WorkflowDocument
import FlowCheck.Text.Blank
import FlowCheck.Text.Pieces
import FlowCheck.Text.Quoted
import FlowCheck.Text.Search
import FlowCheck.Unicode.CaseFold
import FlowCheck.Unicode.Category
import FlowCheck.Unicode.Direction
import FlowCheck.Unicode.Domain
import FlowCheck.Unicode.Joining
import FlowCheck.Unicode.Letter
import FlowCheck.Unicode.Property
import FlowCheck.Unicode.Ranges
import FlowCheck.Unicode.Script
import FlowCheck.Unicode.Visible
import FlowCheck.Unicode.Word
import FlowCheck.Wire.Codec
import FlowCheck.Wire.Problem
import FlowCheck.Wire.Record
import FlowCheck.Yaml.Event
import FlowCheck.Yaml.Grammar
import FlowCheck.Yaml.Mark
import FlowCheck.Yaml.Node
import FlowCheck.Yaml.PlainValue
import FlowCheck.Yaml.Problem
import FlowCheck.Yaml.Scalar.Block
import FlowCheck.Yaml.Scalar.Plain
import FlowCheck.Yaml.Scalar.QuotedScalar
import FlowCheck.Yaml.Source
import FlowCheck.Yaml.Token
import FlowCheck.Yaml.Token.Directive
import FlowCheck.Yaml.Token.Lexer
import FlowCheck.Yaml.Token.Tag
import FlowCheck.Yaml.Value
import FlowCheck.Proofs.Schema.Ensures
import FlowCheck.Proofs.Rules.Settled
import FlowCheck.Proofs.Model.Run
import FlowCheck.Proofs.Schema.Pointer
import FlowCheck.Proofs.Hints.FieldPath
import FlowCheck.Proofs.Hints.Options
import FlowCheck.Proofs.Schema.Part
import FlowCheck.Proofs.Schema.Finding
import FlowCheck.Proofs.Hints.Hint
import FlowCheck.Proofs.Schema.OptionHint
import FlowCheck.Proofs.Schema.OwnHint
import FlowCheck.Proofs.Schema.Agreement
import FlowCheck.Proofs.Schema.ResourceAgreement
import FlowCheck.Proofs.Schema.WorkflowAgreement
import FlowCheck.Proofs.Expression.Template
import FlowCheck.Proofs.Condition.Ending
import FlowCheck.Proofs.Expression.Interpolation
import FlowCheck.Proofs.Expression.CustomRules
import FlowCheck.Proofs.Expression.MarkedRule
import FlowCheck.Proofs.Request.Report
import FlowCheck.Proofs.Condition.Variables
import FlowCheck.Proofs.Request.Reads
import FlowCheck.Proofs.Model.PrimaryAction
import FlowCheck.Proofs.Model.RoundTrip
import FlowCheck.Proofs.Model.Kept
import FlowCheck.Proofs.Model.AddedResource
import FlowCheck.Proofs.Project.Load
import FlowCheck.Proofs.Hints.Inline
import FlowCheck.Proofs.Schema.InlineHint
import FlowCheck.Proofs.Project.SchemaFilter
import FlowCheck.Proofs.Text.ByteOrder
import FlowCheck.Proofs.Project.Contents
import FlowCheck.Proofs.Command.Schedule
import FlowCheck.Proofs.Json.Field
import FlowCheck.Proofs.Schema.Subject
import FlowCheck.Proofs.Rules.FirstProblem
import FlowCheck.Proofs.Request.FieldRule
import FlowCheck.Proofs.Request.PatternCache
import FlowCheck.Proofs.Request.Tightening
import FlowCheck.Proofs.Format.Date
import FlowCheck.Proofs.Wire.Diagnostic
import FlowCheck.Proofs.Number.IntegerOrder
import FlowCheck.Proofs.Condition.Comparison
import FlowCheck.Proofs.Condition.Rearrangement
import FlowCheck.Proofs.Rules.AcceptedInput
import FlowCheck.Proofs.Rules.AcceptedResource
import FlowCheck.Proofs.Hints.Positions
import FlowCheck.Proofs.Json.Texts
import FlowCheck.Proofs.Schema.Declared
import FlowCheck.Proofs.Schema.TypeSentence
import FlowCheck.Proofs.Hints.Example
import FlowCheck.Proofs.Hints.Clause
import FlowCheck.Proofs.Schema.FittingExample
import FlowCheck.Proofs.Pattern.Matching
import FlowCheck.Proofs.Format.Email
import FlowCheck.Proofs.Condition.ByteRanges
import FlowCheck.Proofs.Condition.Regions
import FlowCheck.Proofs.Hints.PathParts
