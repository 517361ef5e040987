import LintConfig.Answers.File
import LintConfig.Answers.Layers
import LintConfig.Answers.Mapping
import LintConfig.Answers.Record
import LintConfig.Calendar
import LintConfig.Command.Arguments
import LintConfig.Command.Dialogue
import LintConfig.Command.Help
import LintConfig.Command.Questions
import LintConfig.Command.Run
import LintConfig.Config.Entries
import LintConfig.Config.Format
import LintConfig.Config.Fragment
import LintConfig.Config.Output
import LintConfig.Config.Packages
import LintConfig.Config.StyleGuide
import LintConfig.Config.Summary
import LintConfig.Console.ColorTable
import LintConfig.Console.Literal
import LintConfig.Console.Markup
import LintConfig.Console.Picture
import LintConfig.Console.PictureTable
import LintConfig.Console.Print
import LintConfig.Console.Style
import LintConfig.Console.Table
import LintConfig.Console.Width
import LintConfig.Console.WidthTable
import LintConfig.Console.Wrap
import LintConfig.Document
import LintConfig.Ecma.Character
import LintConfig.Ecma.Cursor
import LintConfig.Ecma.Error
import LintConfig.Ecma.Lexer
import LintConfig.Ecma.Name
import LintConfig.Ecma.Parser
import LintConfig.Ecma.Parser.Class
import LintConfig.Ecma.Parser.Cover
import LintConfig.Ecma.Parser.Expression
import LintConfig.Ecma.Parser.Function
import LintConfig.Ecma.Parser.Key
import LintConfig.Ecma.Parser.Markup
import LintConfig.Ecma.Parser.Module
import LintConfig.Ecma.Parser.Pattern
import LintConfig.Ecma.Parser.State
import LintConfig.Ecma.Parser.Statement
import LintConfig.Ecma.RegularExpression
import LintConfig.Ecma.RegularExpression.Basic
import LintConfig.Ecma.RegularExpression.Escape
import LintConfig.Ecma.RegularExpression.Group
import LintConfig.Ecma.Token
import LintConfig.Ecma.Traversal
import LintConfig.Ecma.Tree
import LintConfig.Ecma.Word
import LintConfig.Files.Expansion
import LintConfig.Files.Path
import LintConfig.Files.Pattern
import LintConfig.Files.Tree
import LintConfig.Json.Reader
import LintConfig.Json.Writer
import LintConfig.Main
import LintConfig.Number.Arithmetic
import LintConfig.Number.Decimal
import LintConfig.Number.Double
import LintConfig.Number.Reading
import LintConfig.Proofs.Acceptance
import LintConfig.Proofs.Ascii
import LintConfig.Proofs.Candidates
import LintConfig.Proofs.Cells
import LintConfig.Proofs.Complaints
import LintConfig.Proofs.Contract
import LintConfig.Proofs.Course
import LintConfig.Proofs.Dominance
import LintConfig.Proofs.Ecma.Composition
import LintConfig.Proofs.Ecma.Covers
import LintConfig.Proofs.Ecma.Elements
import LintConfig.Proofs.Ecma.Expressions
import LintConfig.Proofs.Ecma.Functions
import LintConfig.Proofs.Ecma.Good
import LintConfig.Proofs.Ecma.Lexing
import LintConfig.Proofs.Ecma.Passage
import LintConfig.Proofs.Ecma.Patterns
import LintConfig.Proofs.Ecma.Positions
import LintConfig.Proofs.Ecma.Programs
import LintConfig.Proofs.Ecma.Stage
import LintConfig.Proofs.Ecma.Statements
import LintConfig.Proofs.Ecma.Steps
import LintConfig.Proofs.Ecma.Traversal
import LintConfig.Proofs.Expansion
import LintConfig.Proofs.Failing
import LintConfig.Proofs.Files.Finding
import LintConfig.Proofs.Files.Following
import LintConfig.Proofs.Files.Tree
import LintConfig.Proofs.Files.Writing
import LintConfig.Proofs.Indentation
import LintConfig.Proofs.Indenting
import LintConfig.Proofs.Inert
import LintConfig.Proofs.Inference
import LintConfig.Proofs.Integers
import LintConfig.Proofs.Joining
import LintConfig.Proofs.Json.Ascii
import LintConfig.Proofs.Json.RoundTrip
import LintConfig.Proofs.Json.Scalars
import LintConfig.Proofs.Keys
import LintConfig.Proofs.Layering
import LintConfig.Proofs.LineEnds
import LintConfig.Proofs.Lossless
import LintConfig.Proofs.Majority
import LintConfig.Proofs.Markup
import LintConfig.Proofs.Merging
import LintConfig.Proofs.Naming
import LintConfig.Proofs.NormalForm
import LintConfig.Proofs.Paths
import LintConfig.Proofs.Places
import LintConfig.Proofs.Precedence
import LintConfig.Proofs.Preview
import LintConfig.Proofs.Quotes
import LintConfig.Proofs.Report
import LintConfig.Proofs.Requirements
import LintConfig.Proofs.Rereading
import LintConfig.Proofs.Rerun
import LintConfig.Proofs.Rounding
import LintConfig.Proofs.Scanning
import LintConfig.Proofs.Selection
import LintConfig.Proofs.Semicolons
import LintConfig.Proofs.Settlement
import LintConfig.Proofs.Sources
import LintConfig.Proofs.Steadiness
import LintConfig.Proofs.Successive
import LintConfig.Proofs.Suggestions
import LintConfig.Proofs.Summaries
import LintConfig.Proofs.Tally
import LintConfig.Proofs.Totals
import LintConfig.Proofs.Values
import LintConfig.Proofs.Widths
import LintConfig.Proofs.Words
import LintConfig.Proofs.Wrapping
import LintConfig.Proofs.Writes
import LintConfig.Proofs.Yaml.Ascii
import LintConfig.Scan
import LintConfig.Settings
import LintConfig.Style.Analysis
import LintConfig.Style.Indentation
import LintConfig.Style.Majority
import LintConfig.Style.Statistic
import LintConfig.Style.Tally
import LintConfig.Synthesis
import LintConfig.Text.Base64
import LintConfig.Text.Blank
import LintConfig.Text.CharacterName
import LintConfig.Text.Digit
import LintConfig.Text.DigitTable
import LintConfig.Text.Hex
import LintConfig.Text.IdentifierTable
import LintConfig.Text.NameTable
import LintConfig.Text.Newline
import LintConfig.Text.Portion
import LintConfig.Text.PrintableTable
import LintConfig.Text.Quotation
import LintConfig.Text.Ranges
import LintConfig.Text.Surrogate
import LintConfig.Text.Utf8
import LintConfig.Value
import LintConfig.Value.Length
import LintConfig.Value.TableOrder
import LintConfig.Value.Text
import LintConfig.Yaml.Construction
import LintConfig.Yaml.Cursor
import LintConfig.Yaml.Error
import LintConfig.Yaml.Indicator
import LintConfig.Yaml.Lexer
import LintConfig.Yaml.Node
import LintConfig.Yaml.Object
import LintConfig.Yaml.Parser
import LintConfig.Yaml.Reader
import LintConfig.Yaml.Scalar
import LintConfig.Yaml.ScalarValue
import LintConfig.Yaml.Tag
import LintConfig.Yaml.Token
import LintConfig.Yaml.Writer
