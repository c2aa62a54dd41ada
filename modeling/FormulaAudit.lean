import FormulaAudit.Analysis
import FormulaAudit.Category
import FormulaAudit.Classification
import FormulaAudit.CommandLine.Arguments
import FormulaAudit.CommandLine.Flag
import FormulaAudit.CommandLine.Help
import FormulaAudit.CommandLine.Outcome
import FormulaAudit.CommandLine.Word
import FormulaAudit.Corpus
import FormulaAudit.Csv
import FormulaAudit.Error
import FormulaAudit.Excerpt
import FormulaAudit.Expression.Basic
import FormulaAudit.Expression.CharTest
import FormulaAudit.Expression.Escape
import FormulaAudit.Expression.Reader
import FormulaAudit.Expression.Reading
import FormulaAudit.Expression.Search
import FormulaAudit.Failure
import FormulaAudit.Features
import FormulaAudit.FileSystem
import FormulaAudit.FunctionCatalogue
import FormulaAudit.Json.Basic
import FormulaAudit.Json.Parser
import FormulaAudit.Json.Printer
import FormulaAudit.Log
import FormulaAudit.Main
import FormulaAudit.MigrationPlan
import FormulaAudit.Number.Binary64
import FormulaAudit.Number.Decimal
import FormulaAudit.Number.FixedPlaces
import FormulaAudit.Number.Numeral
import FormulaAudit.Number.Power
import FormulaAudit.Number.Rounding
import FormulaAudit.Number.Shortest
import FormulaAudit.Path
import FormulaAudit.Pattern.Basic
import FormulaAudit.Pattern.CharClass
import FormulaAudit.Pattern.Search
import FormulaAudit.Proofs.Analysis
import FormulaAudit.Proofs.Classification.Embedding
import FormulaAudit.Proofs.Classification.Evidence
import FormulaAudit.Proofs.Classification.LetterCase
import FormulaAudit.Proofs.Classification.LineBreaks
import FormulaAudit.Proofs.Classification.Undecided
import FormulaAudit.Proofs.Classification.WeighedCalls
import FormulaAudit.Proofs.CommandLine.Outcome
import FormulaAudit.Proofs.Corpus.FunctionUsage
import FormulaAudit.Proofs.Corpus.Groups
import FormulaAudit.Proofs.Corpus.Names
import FormulaAudit.Proofs.Corpus.Ratings
import FormulaAudit.Proofs.Corpus.Rearrangement
import FormulaAudit.Proofs.Corpus.Records
import FormulaAudit.Proofs.Corpus.SheetFigures
import FormulaAudit.Proofs.Corpus.Summary
import FormulaAudit.Proofs.Csv.LineEnd
import FormulaAudit.Proofs.Csv.Reader
import FormulaAudit.Proofs.Features.CallPlaces
import FormulaAudit.Proofs.Features.Growth
import FormulaAudit.Proofs.Features.Joining
import FormulaAudit.Proofs.Features.LetterCase
import FormulaAudit.Proofs.Features.LogicalOperators
import FormulaAudit.Proofs.Features.Places
import FormulaAudit.Proofs.Features.RepeatedSearch
import FormulaAudit.Proofs.FileSystem.Directories
import FormulaAudit.Proofs.FileSystem.Faults
import FormulaAudit.Proofs.FileSystem.Writing
import FormulaAudit.Proofs.FunctionCatalogue
import FormulaAudit.Proofs.Json.Grammar
import FormulaAudit.Proofs.Json.Printer
import FormulaAudit.Proofs.Json.Reader
import FormulaAudit.Proofs.MigrationPlan.Coverage
import FormulaAudit.Proofs.MigrationPlan.Schedule
import FormulaAudit.Proofs.Number.Binary64
import FormulaAudit.Proofs.Number.Digits
import FormulaAudit.Proofs.Number.Tenths
import FormulaAudit.Proofs.Path
import FormulaAudit.Proofs.Pattern.Language
import FormulaAudit.Proofs.Pattern.LetterCase
import FormulaAudit.Proofs.Pattern.Line
import FormulaAudit.Proofs.Pattern.Search
import FormulaAudit.Proofs.Report.Cells
import FormulaAudit.Proofs.Report.Changes
import FormulaAudit.Proofs.Report.Document
import FormulaAudit.Proofs.Report.Escaping
import FormulaAudit.Proofs.Report.Files
import FormulaAudit.Proofs.Report.Inventory
import FormulaAudit.Proofs.Report.Lines
import FormulaAudit.Proofs.Report.MarkdownTables
import FormulaAudit.Proofs.Report.Placement
import FormulaAudit.Proofs.Report.Samples
import FormulaAudit.Proofs.Report.Table
import FormulaAudit.Proofs.Report.TableRows
import FormulaAudit.Proofs.Report.Views
import FormulaAudit.Proofs.RuleBook.ComplexMarks
import FormulaAudit.Proofs.RuleBook.Decision
import FormulaAudit.Proofs.RuleBook.Derivation
import FormulaAudit.Proofs.RuleBook.DistinctForms
import FormulaAudit.Proofs.RuleBook.Grammar
import FormulaAudit.Proofs.RuleBook.Precedence
import FormulaAudit.Proofs.RuleBook.SimpleForms
import FormulaAudit.Proofs.Run
import FormulaAudit.Proofs.Tally.Session
import FormulaAudit.Proofs.Text.Letter
import FormulaAudit.Proofs.Text.UpToCase
import FormulaAudit.Proofs.Text.UpperCase
import FormulaAudit.Proofs.Workbook.FormulaCells
import FormulaAudit.Proofs.Workbook.Position
import FormulaAudit.Proofs.Workbook.RecordedCells
import FormulaAudit.Proofs.Workbook.Sheet
import FormulaAudit.Proofs.Workbook.Title
import FormulaAudit.Record
import FormulaAudit.Report.Console
import FormulaAudit.Report.Document
import FormulaAudit.Report.Files
import FormulaAudit.Report.Narrative
import FormulaAudit.Report.Narrative.Examples
import FormulaAudit.Report.Narrative.Functions
import FormulaAudit.Report.Narrative.Inventory
import FormulaAudit.Report.Narrative.Migration
import FormulaAudit.Report.Narrative.Overview
import FormulaAudit.Report.Narrative.Sheets
import FormulaAudit.Report.Preview
import FormulaAudit.Report.Sample
import FormulaAudit.Report.Table
import FormulaAudit.Request
import FormulaAudit.Rule
import FormulaAudit.RuleBook.Standard
import FormulaAudit.Run
import FormulaAudit.Score
import FormulaAudit.Settings
import FormulaAudit.Share
import FormulaAudit.Tally
import FormulaAudit.Text.Blank
import FormulaAudit.Text.DecimalDigit
import FormulaAudit.Text.Identifier
import FormulaAudit.Text.LetterCase
import FormulaAudit.Text.LetterCase.Context
import FormulaAudit.Text.LetterCase.Table
import FormulaAudit.Text.LineEnd
import FormulaAudit.Text.Pad
import FormulaAudit.Text.Printable
import FormulaAudit.Text.Quoted
import FormulaAudit.Text.Template
import FormulaAudit.Text.Template.Directive
import FormulaAudit.Text.Template.Value
import FormulaAudit.Text.WordCharacter
import FormulaAudit.Text.Wrap
import FormulaAudit.Time.Calendar
import FormulaAudit.Time.Duration
import FormulaAudit.Time.Reader
import FormulaAudit.Time.Stored
import FormulaAudit.Validation.Field
import FormulaAudit.Validation.Input
import FormulaAudit.Validation.IntegerText
import FormulaAudit.Workbook.Basic
import FormulaAudit.Workbook.Description
import FormulaAudit.Workbook.Format
import FormulaAudit.Workbook.Position
import FormulaAudit.Workbook.Records
import FormulaAudit.Workbook.Title
import FormulaAudit.Workbook.Value
