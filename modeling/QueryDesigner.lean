import QueryDesigner.Canvas.Basic
import QueryDesigner.Canvas.Columns
import QueryDesigner.Canvas.Failure
import QueryDesigner.Canvas.Ordering
import QueryDesigner.Canvas.Predicates
import QueryDesigner.Canvas.Saved
import QueryDesigner.Canvas.Tables
import QueryDesigner.Catalog.Basic
import QueryDesigner.Catalog.Payload
import QueryDesigner.Compile.Clause
import QueryDesigner.Compile.Statement
import QueryDesigner.Compile.Value
import QueryDesigner.Datum
import QueryDesigner.Decimal.Exact
import QueryDesigner.Decimal.Shortest
import QueryDesigner.Decompile.Conditions
import QueryDesigner.Decompile.Items
import QueryDesigner.Decompile.Reading
import QueryDesigner.Decompile.Statement
import QueryDesigner.Decompile.Tables
import QueryDesigner.Decompile.Warning
import QueryDesigner.Layout.Format
import QueryDesigner.Layout.Glyph
import QueryDesigner.Layout.Phrase
import QueryDesigner.Proofs.Canvas.Dangling
import QueryDesigner.Proofs.Canvas.Guest
import QueryDesigner.Proofs.Canvas.Mutation
import QueryDesigner.Proofs.Canvas.Neighbour
import QueryDesigner.Proofs.Canvas.Outcome
import QueryDesigner.Proofs.Canvas.RenameBack
import QueryDesigner.Proofs.Canvas.Run
import QueryDesigner.Proofs.Canvas.SelfJoin
import QueryDesigner.Proofs.Canvas.Step
import QueryDesigner.Proofs.Canvas.Toggle
import QueryDesigner.Proofs.Canvas.Undated
import QueryDesigner.Proofs.Canvas.Unrepeated
import QueryDesigner.Proofs.Canvas.WellFormed
import QueryDesigner.Proofs.Catalog.Relationship
import QueryDesigner.Proofs.Compile.Check
import QueryDesigner.Proofs.Compile.Constant
import QueryDesigner.Proofs.Compile.Introduction
import QueryDesigner.Proofs.Compile.Literal
import QueryDesigner.Proofs.Compile.Pruned
import QueryDesigner.Proofs.Compile.Quotes
import QueryDesigner.Proofs.Compile.Range
import QueryDesigner.Proofs.Compile.Scope
import QueryDesigner.Proofs.Compile.Spelled
import QueryDesigner.Proofs.Compile.Statement
import QueryDesigner.Proofs.Decompile.Account
import QueryDesigner.Proofs.Decompile.Arrangement
import QueryDesigner.Proofs.Decompile.Bounds
import QueryDesigner.Proofs.Decompile.ColumnOrder
import QueryDesigner.Proofs.Decompile.Conjuncts
import QueryDesigner.Proofs.Decompile.Coverage
import QueryDesigner.Proofs.Decompile.Grouping
import QueryDesigner.Proofs.Decompile.Items
import QueryDesigner.Proofs.Decompile.Joins
import QueryDesigner.Proofs.Decompile.Lossless
import QueryDesigner.Proofs.Decompile.Steps
import QueryDesigner.Proofs.Decompile.Tables
import QueryDesigner.Proofs.Decompile.Total
import QueryDesigner.Proofs.Decompile.WellFormed
import QueryDesigner.Proofs.Invariant
import QueryDesigner.Proofs.Layout.Capital
import QueryDesigner.Proofs.Layout.Clause
import QueryDesigner.Proofs.Layout.Comma
import QueryDesigner.Proofs.Layout.Cosmetic
import QueryDesigner.Proofs.Layout.Keyword
import QueryDesigner.Proofs.Layout.Legible
import QueryDesigner.Proofs.Layout.Lenient
import QueryDesigner.Proofs.Layout.LetterCase
import QueryDesigner.Proofs.Layout.LineBreak
import QueryDesigner.Proofs.Layout.Mark
import QueryDesigner.Proofs.Layout.Piece
import QueryDesigner.Proofs.Layout.Protect
import QueryDesigner.Proofs.Layout.Quote
import QueryDesigner.Proofs.Layout.Relaid
import QueryDesigner.Proofs.Layout.Respelled
import QueryDesigner.Proofs.Layout.Stable
import QueryDesigner.Proofs.Layout.Tidy
import QueryDesigner.Proofs.Layout.Token
import QueryDesigner.Proofs.Parser.Clause
import QueryDesigner.Proofs.Parser.Level
import QueryDesigner.Proofs.Parser.Operand
import QueryDesigner.Proofs.Parser.Part
import QueryDesigner.Proofs.Parser.Script
import QueryDesigner.Proofs.Parser.Select
import QueryDesigner.Proofs.Parser.Source
import QueryDesigner.Proofs.Parser.Step
import QueryDesigner.Proofs.Parser.Test
import QueryDesigner.Proofs.Query.Encode
import QueryDesigner.Proofs.Query.FreeNumber
import QueryDesigner.Proofs.Query.Guest
import QueryDesigner.Proofs.Query.Keyed
import QueryDesigner.Proofs.Query.References
import QueryDesigner.Proofs.Query.Selections
import QueryDesigner.Proofs.Query.Undated
import QueryDesigner.Proofs.Query.WellFormed
import QueryDesigner.Proofs.RoundTrip.Conditions
import QueryDesigner.Proofs.RoundTrip.Items
import QueryDesigner.Proofs.RoundTrip.Joins
import QueryDesigner.Proofs.RoundTrip.Plain
import QueryDesigner.Proofs.RoundTrip.ReadBack
import QueryDesigner.Proofs.RoundTrip.Rest
import QueryDesigner.Proofs.RoundTrip.Table
import QueryDesigner.Proofs.Sql.Comparison
import QueryDesigner.Proofs.Sql.Lexer
import QueryDesigner.Proofs.Sql.Literal
import QueryDesigner.Proofs.Sql.Name
import QueryDesigner.Proofs.Sql.Place
import QueryDesigner.Proofs.Sql.Reads
import QueryDesigner.Proofs.Sql.Row
import QueryDesigner.Proofs.Sql.Spelling
import QueryDesigner.Proofs.Sql.Stem
import QueryDesigner.Proofs.Suggestion.Accepted
import QueryDesigner.Proofs.Suggestion.Candidate
import QueryDesigner.Proofs.Suggestion.Fresh
import QueryDesigner.Proofs.Suggestion.Renamed
import QueryDesigner.Proofs.Text.Digit
import QueryDesigner.Proofs.Text.LetterCase
import QueryDesigner.Proofs.Timeline.Reload
import QueryDesigner.Proofs.Timeline.Replay
import QueryDesigner.Proofs.Timeline.Total
import QueryDesigner.Proofs.Validation.Decoder
import QueryDesigner.Query.Basic
import QueryDesigner.Query.Decode
import QueryDesigner.Query.Encode
import QueryDesigner.Query.Reference
import QueryDesigner.Query.Selection
import QueryDesigner.Query.State
import QueryDesigner.RoundTrip
import QueryDesigner.Service.Answer
import QueryDesigner.Service.Request
import QueryDesigner.Settings
import QueryDesigner.Sql.Adaptation
import QueryDesigner.Sql.Comparison
import QueryDesigner.Sql.Feature
import QueryDesigner.Sql.Function
import QueryDesigner.Sql.JsonPath
import QueryDesigner.Sql.Kind
import QueryDesigner.Sql.Lexer
import QueryDesigner.Sql.Name
import QueryDesigner.Sql.Node
import QueryDesigner.Sql.Parser.Alias
import QueryDesigner.Sql.Parser.Basic
import QueryDesigner.Sql.Parser.Call
import QueryDesigner.Sql.Parser.Constant
import QueryDesigner.Sql.Parser.Expression
import QueryDesigner.Sql.Parser.Paging
import QueryDesigner.Sql.Parser.Query
import QueryDesigner.Sql.Parser.Source
import QueryDesigner.Sql.Parser.Statement
import QueryDesigner.Sql.Parser.TypeName
import QueryDesigner.Sql.Parser.Window
import QueryDesigner.Sql.Printer
import QueryDesigner.Sql.Quoted
import QueryDesigner.Sql.Syntax
import QueryDesigner.Sql.TimeFormat
import QueryDesigner.Sql.Token
import QueryDesigner.Sql.TypeName
import QueryDesigner.Suggestion
import QueryDesigner.Text.Blank
import QueryDesigner.Text.Digit
import QueryDesigner.Text.Digit.Table
import QueryDesigner.Text.LetterCase
import QueryDesigner.Text.LetterCase.Table
import QueryDesigner.Text.Numeral
import QueryDesigner.Text.WordChar
import QueryDesigner.Text.WordChar.Table
import QueryDesigner.Timeline.Action
import QueryDesigner.Timeline.Replay
import QueryDesigner.Validation.Decoder
import QueryDesigner.Validation.Issue
