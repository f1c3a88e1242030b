import ProseLint.Check
import ProseLint.Command
import ProseLint.CommandLine.Arguments
import ProseLint.CommandLine.Similarity
import ProseLint.CommandLine.Usage
import ProseLint.Decimal.Shortest
import ProseLint.English
import ProseLint.Exemption
import ProseLint.FileSystem
import ProseLint.FileTree
import ProseLint.Glob
import ProseLint.Issue
import ProseLint.Location
import ProseLint.Main
import ProseLint.Options
import ProseLint.Options.Fault
import ProseLint.Options.Numeral
import ProseLint.Options.Reader
import ProseLint.Options.Writer
import ProseLint.Path
import ProseLint.Report
import ProseLint.Scan
import ProseLint.Styled
import ProseLint.Survey
import ProseLint.Syntax.Cursor
import ProseLint.Syntax.Dialect
import ProseLint.Syntax.Grammar.Basic
import ProseLint.Syntax.Grammar.Expression
import ProseLint.Syntax.Grammar.Function
import ProseLint.Syntax.Grammar.Markup
import ProseLint.Syntax.Grammar.Operation
import ProseLint.Syntax.Grammar.Statement
import ProseLint.Syntax.Grammar.Type
import ProseLint.Syntax.Lexer
import ProseLint.Syntax.Lexer.Escape
import ProseLint.Syntax.Lexer.Name
import ProseLint.Syntax.Lexer.Number
import ProseLint.Syntax.Lexer.Quoted
import ProseLint.Syntax.Lexer.Trivia
import ProseLint.Syntax.Node
import ProseLint.Syntax.Parser
import ProseLint.Syntax.Pattern
import ProseLint.Syntax.Program
import ProseLint.Syntax.Token
import ProseLint.Text.NameChar
import ProseLint.Text.Pieces
import ProseLint.Text.Quoted
import ProseLint.Text.Ranges
import ProseLint.Text.Span
import ProseLint.Text.Unshown
import ProseLint.Text.Utf16
import ProseLint.Text.Width
import ProseLint.Text.Width.Tables
import ProseLint.Violation
import ProseLint.Proofs.Syntax.Tree
import ProseLint.Proofs.Syntax.Lexer
import ProseLint.Proofs.Syntax.Stock
import ProseLint.Proofs.Syntax.Account
import ProseLint.Proofs.Syntax.Grammar
import ProseLint.Proofs.Syntax.Program
import ProseLint.Proofs.Text.Pieces
import ProseLint.Proofs.Text.Utf16
import ProseLint.Proofs.Text.Width
import ProseLint.Proofs.English.Units
import ProseLint.Proofs.Location
import ProseLint.Proofs.Exemption.Chain
import ProseLint.Proofs.Exemption.Token
import ProseLint.Proofs.Violation.Slots
import ProseLint.Proofs.Violation.Transparency
import ProseLint.Proofs.Violation.Delimiter
import ProseLint.Proofs.Violation.Excludes
import ProseLint.Proofs.Violation.Distinct
import ProseLint.Proofs.Issue.Order
import ProseLint.Proofs.Report.Caret
import ProseLint.Proofs.Report.Limits
import ProseLint.Proofs.Report.Rows
import ProseLint.Proofs.Report.Independence
import ProseLint.Proofs.Report.Color
import ProseLint.Proofs.FileSystem.Path
import ProseLint.Proofs.FileSystem.Walk
import ProseLint.Proofs.Scan.Files
import ProseLint.Proofs.Scan.Root
import ProseLint.Proofs.Command.Ending
import ProseLint.Proofs.CommandLine.Given
import ProseLint.Proofs.Issue.Sorting
import ProseLint.Proofs.Check.Files
import ProseLint.Proofs.Check.SourceOrder
import ProseLint.Proofs.Check.LineLookup
import ProseLint.Proofs.Json.Grammar
import ProseLint.Proofs.Options.Run
import ProseLint.Proofs.Options.Skip
import ProseLint.Proofs.Options.Members
import ProseLint.Proofs.Options.Object
import ProseLint.Proofs.Options.Other
import ProseLint.Proofs.Options.RoundTrip
