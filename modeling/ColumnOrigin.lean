import ColumnOrigin.Catalog.Assembly
import ColumnOrigin.Catalog.MemoryCatalog
import ColumnOrigin.Catalog.Table
import ColumnOrigin.Column
import ColumnOrigin.Command.Arguments
import ColumnOrigin.Command.ColumnText
import ColumnOrigin.Command.DialectText
import ColumnOrigin.Command.ReportText
import ColumnOrigin.Command.Run
import ColumnOrigin.Command.Style
import ColumnOrigin.Config
import ColumnOrigin.Data.Decoder
import ColumnOrigin.Data.Json.Parser
import ColumnOrigin.Data.Json.Printer
import ColumnOrigin.Data.Toml.Parser
import ColumnOrigin.Data.Toml.Quoted
import ColumnOrigin.Data.Toml.Reader
import ColumnOrigin.Data.Toml.Scalar
import ColumnOrigin.Data.Toml.Table
import ColumnOrigin.Data.Value
import ColumnOrigin.Diagnostic
import ColumnOrigin.Dialect.Basic
import ColumnOrigin.Dialect.Folding
import ColumnOrigin.Dialect.Sequence
import ColumnOrigin.Encoding.Catalog
import ColumnOrigin.Encoding.Column
import ColumnOrigin.Encoding.Config
import ColumnOrigin.Encoding.Diagnostic
import ColumnOrigin.Encoding.Dialect
import ColumnOrigin.Encoding.Names
import ColumnOrigin.Encoding.Report
import ColumnOrigin.Environment
import ColumnOrigin.Files.Basic
import ColumnOrigin.Files.Directory
import ColumnOrigin.Main
import ColumnOrigin.Names
import ColumnOrigin.Proofs.Catalog.Answers
import ColumnOrigin.Proofs.Catalog.AutoIncrement
import ColumnOrigin.Proofs.Catalog.DefaultTable
import ColumnOrigin.Proofs.Catalog.Facts
import ColumnOrigin.Proofs.Catalog.Isolation
import ColumnOrigin.Proofs.Catalog.Namesakes
import ColumnOrigin.Proofs.Catalog.QualifiedName
import ColumnOrigin.Proofs.Catalog.Questions
import ColumnOrigin.Proofs.Catalog.Renamed
import ColumnOrigin.Proofs.Catalog.SharedEntries
import ColumnOrigin.Proofs.Catalog.SharedStore
import ColumnOrigin.Proofs.Catalog.Stamps
import ColumnOrigin.Proofs.Catalog.Steady
import ColumnOrigin.Proofs.Catalog.Transcript
import ColumnOrigin.Proofs.Catalog.WritableTables
import ColumnOrigin.Proofs.Command.Columns
import ColumnOrigin.Proofs.Command.Printed
import ColumnOrigin.Proofs.Command.Resolve
import ColumnOrigin.Proofs.Command.Runs
import ColumnOrigin.Proofs.Command.Severities
import ColumnOrigin.Proofs.Config
import ColumnOrigin.Proofs.Data.Decoder
import ColumnOrigin.Proofs.Encoding.RoundTrip
import ColumnOrigin.Proofs.Json.Atoms
import ColumnOrigin.Proofs.Json.Values
import ColumnOrigin.Proofs.Names
import ColumnOrigin.Proofs.Query.Aliases
import ColumnOrigin.Proofs.Query.Attribution
import ColumnOrigin.Proofs.Query.Correlations
import ColumnOrigin.Proofs.Query.Dangling
import ColumnOrigin.Proofs.Query.DeclaredNames
import ColumnOrigin.Proofs.Query.Degradations
import ColumnOrigin.Proofs.Query.Fallback
import ColumnOrigin.Proofs.Query.Folded
import ColumnOrigin.Proofs.Query.HiddenJoins
import ColumnOrigin.Proofs.Query.Nesting
import ColumnOrigin.Proofs.Query.Origins
import ColumnOrigin.Proofs.Query.Places
import ColumnOrigin.Proofs.Query.Projection
import ColumnOrigin.Proofs.Query.Resolver
import ColumnOrigin.Proofs.Query.Spelling
import ColumnOrigin.Proofs.Query.Unanalysed
import ColumnOrigin.Proofs.Report
import ColumnOrigin.Proofs.Sequence.Defaults
import ColumnOrigin.Proofs.Sequence.QuotedNames
import ColumnOrigin.Proofs.Sequence.Reading
import ColumnOrigin.Proofs.Sequence.WholeWord
import ColumnOrigin.Proofs.Text.Folding
import ColumnOrigin.Proofs.Text.Letters
import ColumnOrigin.Query.Correlations
import ColumnOrigin.Query.FromNode
import ColumnOrigin.Query.Origins
import ColumnOrigin.Query.Resolver
import ColumnOrigin.Query.Shape
import ColumnOrigin.Report
import ColumnOrigin.Sql.Grammar
import ColumnOrigin.Sql.Keyword
import ColumnOrigin.Sql.Lexer
import ColumnOrigin.Sql.Parser.Alteration
import ColumnOrigin.Sql.Parser.Basic
import ColumnOrigin.Sql.Parser.Call
import ColumnOrigin.Sql.Parser.Change
import ColumnOrigin.Sql.Parser.ColumnDefinition
import ColumnOrigin.Sql.Parser.Command
import ColumnOrigin.Sql.Parser.Copy
import ColumnOrigin.Sql.Parser.DataType
import ColumnOrigin.Sql.Parser.Definition
import ColumnOrigin.Sql.Parser.Maintenance
import ColumnOrigin.Sql.Parser.Operand
import ColumnOrigin.Sql.Parser.Operator
import ColumnOrigin.Sql.Parser.Options
import ColumnOrigin.Sql.Parser.Precedence
import ColumnOrigin.Sql.Parser.Privilege
import ColumnOrigin.Sql.Parser.Query
import ColumnOrigin.Sql.Parser.Routine
import ColumnOrigin.Sql.Parser.Rules
import ColumnOrigin.Sql.Parser.Script
import ColumnOrigin.Sql.Parser.Setting
import ColumnOrigin.Sql.Parser.Statements
import ColumnOrigin.Sql.Parser.Table
import ColumnOrigin.Sql.Parser.TableDefinition
import ColumnOrigin.Sql.Parser.Transaction
import ColumnOrigin.Sql.Statement
import ColumnOrigin.Sql.Token
import ColumnOrigin.Text.Alphabetic
import ColumnOrigin.Text.Blank
import ColumnOrigin.Text.Case
import ColumnOrigin.Text.CaseData
import ColumnOrigin.Text.Digits
import ColumnOrigin.Text.Numeric
import ColumnOrigin.Text.Ranges
import ColumnOrigin.Text.WordChar
