import RecordFilter.Cache
import RecordFilter.Calendar.Date
import RecordFilter.Calendar.Iso
import RecordFilter.Calendar.Moment
import RecordFilter.Calendar.Pattern
import RecordFilter.Command.Arguments
import RecordFilter.Command.Failure
import RecordFilter.Command.Files
import RecordFilter.Command.Invocation
import RecordFilter.Command.Issue
import RecordFilter.Command.Libraries
import RecordFilter.Command.Line
import RecordFilter.Command.Profile
import RecordFilter.Command.Report
import RecordFilter.Command.Result
import RecordFilter.Command.Run
import RecordFilter.Command.SchemaFile
import RecordFilter.Command.Usage
import RecordFilter.Condition
import RecordFilter.Csv.Reader
import RecordFilter.Csv.Writer
import RecordFilter.Expr.Basic
import RecordFilter.Expr.Parse
import RecordFilter.Expr.ParseError
import RecordFilter.Expr.Print
import RecordFilter.Expr.Tape
import RecordFilter.Expr.Walk
import RecordFilter.Fault
import RecordFilter.Json.Basic
import RecordFilter.Json.Reader
import RecordFilter.Kind
import RecordFilter.Layout.Block
import RecordFilter.Layout.Wrap
import RecordFilter.Main
import RecordFilter.Number.Binary64
import RecordFilter.Number.Decimal
import RecordFilter.Number.Digits
import RecordFilter.Number.Integer
import RecordFilter.Number.Numeral
import RecordFilter.Parsed
import RecordFilter.Payload.Arithmetic
import RecordFilter.Payload.Basic
import RecordFilter.Payload.Compare
import RecordFilter.Payload.Text
import RecordFilter.Predicate.Basic
import RecordFilter.Predicate.Compile
import RecordFilter.Predicate.CompileError
import RecordFilter.Predicate.Term
import RecordFilter.Proofs.BuiltConditions
import RecordFilter.Proofs.CollectionElements
import RecordFilter.Proofs.CommandEndings
import RecordFilter.Proofs.CommandFiles
import RecordFilter.Proofs.CompileFaults
import RecordFilter.Proofs.CompileSteps
import RecordFilter.Proofs.CompiledTests
import RecordFilter.Proofs.ConstantFolding
import RecordFilter.Proofs.CorrectRounding
import RecordFilter.Proofs.CursorParsing
import RecordFilter.Proofs.DecimalValue
import RecordFilter.Proofs.DeclaredKinds
import RecordFilter.Proofs.Definedness
import RecordFilter.Proofs.DocumentLines
import RecordFilter.Proofs.DocumentNumbers
import RecordFilter.Proofs.DocumentSteps
import RecordFilter.Proofs.DocumentTexts
import RecordFilter.Proofs.EncodedTexts
import RecordFilter.Proofs.ExportedTables
import RecordFilter.Proofs.FieldAccess
import RecordFilter.Proofs.FieldReferences
import RecordFilter.Proofs.FirstAppearances
import RecordFilter.Proofs.FirstWrongToken
import RecordFilter.Proofs.Grammar
import RecordFilter.Proofs.InferredColumns
import RecordFilter.Proofs.InferredSchemas
import RecordFilter.Proofs.InterchangeableNodes
import RecordFilter.Proofs.Interpreter
import RecordFilter.Proofs.InterpreterAgrees
import RecordFilter.Proofs.KeptConstants
import RecordFilter.Proofs.KeywordTexts
import RecordFilter.Proofs.KindSoundness
import RecordFilter.Proofs.Kinds
import RecordFilter.Proofs.KnownKeywords
import RecordFilter.Proofs.LastUsed
import RecordFilter.Proofs.LinearOrder
import RecordFilter.Proofs.LiteralSearch
import RecordFilter.Proofs.LiteralTexts
import RecordFilter.Proofs.Lookahead
import RecordFilter.Proofs.LoweredTexts
import RecordFilter.Proofs.Membership
import RecordFilter.Proofs.MirroredComparisons
import RecordFilter.Proofs.MomentTexts
import RecordFilter.Proofs.NamedFields
import RecordFilter.Proofs.NegatedForms
import RecordFilter.Proofs.NodeInvariants
import RecordFilter.Proofs.NumberEncodings
import RecordFilter.Proofs.NumberValues
import RecordFilter.Proofs.Numerals
import RecordFilter.Proofs.Outcomes
import RecordFilter.Proofs.ParseErrors
import RecordFilter.Proofs.ParsedFilters
import RecordFilter.Proofs.ParserCompleteness
import RecordFilter.Proofs.ParserMeetsGrammar
import RecordFilter.Proofs.ParserSoundness
import RecordFilter.Proofs.ParserSteps
import RecordFilter.Proofs.PayloadSymmetry
import RecordFilter.Proofs.PrintRoundTrip
import RecordFilter.Proofs.Ranges
import RecordFilter.Proofs.RecordFaults
import RecordFilter.Proofs.Scanning
import RecordFilter.Proofs.SearchAsPatterns
import RecordFilter.Proofs.SelfEquality
import RecordFilter.Proofs.SeparatedValues
import RecordFilter.Proofs.ShortNumbers
import RecordFilter.Proofs.SignedLiterals
import RecordFilter.Proofs.SpacedTokens
import RecordFilter.Proofs.TermKinds
import RecordFilter.Proofs.TextSearch
import RecordFilter.Proofs.TimestampReadings
import RecordFilter.Proofs.TokenTiling
import RecordFilter.Proofs.TreeWalks
import RecordFilter.Proofs.Unreadable
import RecordFilter.Proofs.ValueLists
import RecordFilter.Proofs.ValueTexts
import RecordFilter.Proofs.WildcardPatterns
import RecordFilter.Proofs.WrittenFiles
import RecordFilter.Proofs.WrittenLines
import RecordFilter.Proofs.WrittenText
import RecordFilter.Query
import RecordFilter.Records.Basic
import RecordFilter.Records.Export
import RecordFilter.Records.Load
import RecordFilter.Resolver.Basic
import RecordFilter.Resolver.DeclaredType
import RecordFilter.Resolver.Infer
import RecordFilter.Search
import RecordFilter.Text.Blank
import RecordFilter.Text.Columns
import RecordFilter.Text.Digit
import RecordFilter.Text.Halves
import RecordFilter.Text.Letter
import RecordFilter.Text.Lines
import RecordFilter.Text.Quoted
import RecordFilter.Text.Similar
import RecordFilter.Text.Spans
import RecordFilter.Text.Utf8
import RecordFilter.Text.WordChar
import RecordFilter.Token.Basic
import RecordFilter.Token.Scan
import RecordFilter.Toml.Basic
import RecordFilter.Toml.Reader
import RecordFilter.Toml.Scalars
import RecordFilter.Toml.Strings
import RecordFilter.Value
import RecordFilter.Wildcard
import RecordFilter.Workspace.Basic
import RecordFilter.Workspace.Path
