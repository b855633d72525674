import TableFlow.Calendar.Date
import TableFlow.Calendar.Instant
import TableFlow.Calendar.Pattern
import TableFlow.Calendar.Printer
import TableFlow.Calendar.Reader
import TableFlow.Cell.Basic
import TableFlow.Cell.Compare
import TableFlow.Cell.Convert
import TableFlow.Condition.Basic
import TableFlow.Condition.Codec
import TableFlow.Error
import TableFlow.Formula.Clean
import TableFlow.Formula.Error
import TableFlow.Formula.Eval
import TableFlow.Formula.Expr
import TableFlow.Formula.Lexer
import TableFlow.Formula.Parser
import TableFlow.Formula.Token
import TableFlow.Json.Basic
import TableFlow.Json.Number
import TableFlow.Json.Reader
import TableFlow.Json.Record
import TableFlow.Json.Skip
import TableFlow.Json.Text
import TableFlow.Json.Writer
import TableFlow.Number.Basic
import TableFlow.Number.Layout
import TableFlow.Number.Reader
import TableFlow.Number.Shortest
import TableFlow.Pipeline.Catalog
import TableFlow.Pipeline.Codec
import TableFlow.Pipeline.Combine
import TableFlow.Pipeline.Event
import TableFlow.Pipeline.Machine
import TableFlow.Pipeline.Run
import TableFlow.Pipeline.Step
import TableFlow.Proofs.Calendar.Date
import TableFlow.Proofs.Calendar.Denotation
import TableFlow.Proofs.Calendar.Instant
import TableFlow.Proofs.Calendar.Layout
import TableFlow.Proofs.Calendar.Offset
import TableFlow.Proofs.Calendar.Stamp
import TableFlow.Proofs.Calendar.Week
import TableFlow.Proofs.Cell.Compare
import TableFlow.Proofs.Cell.Equality
import TableFlow.Proofs.Cell.Integer
import TableFlow.Proofs.Cell.Order
import TableFlow.Proofs.Cell.Timestamp
import TableFlow.Proofs.Cell.Transitivity
import TableFlow.Proofs.Cell.Zeros
import TableFlow.Proofs.Condition.Formula
import TableFlow.Proofs.Condition.Leaves
import TableFlow.Proofs.Condition.RoundTrip
import TableFlow.Proofs.Condition.Rows
import TableFlow.Proofs.Formula.Cleaning
import TableFlow.Proofs.Formula.Exact
import TableFlow.Proofs.Formula.Grammar
import TableFlow.Proofs.Formula.Lexeme
import TableFlow.Proofs.Formula.Lexer
import TableFlow.Proofs.Formula.Parser
import TableFlow.Proofs.Formula.Printer
import TableFlow.Proofs.Formula.References
import TableFlow.Proofs.Formula.Remainder
import TableFlow.Proofs.Formula.Rows
import TableFlow.Proofs.Formula.Spelling
import TableFlow.Proofs.Formula.Unknown
import TableFlow.Proofs.General
import TableFlow.Proofs.Json.Nesting
import TableFlow.Proofs.Json.Number
import TableFlow.Proofs.Json.Restore
import TableFlow.Proofs.Json.RoundTrip
import TableFlow.Proofs.Json.Text
import TableFlow.Proofs.Json.Writable
import TableFlow.Proofs.Number.Digits
import TableFlow.Proofs.Number.Finite
import TableFlow.Proofs.Number.Order
import TableFlow.Proofs.Number.Reader
import TableFlow.Proofs.Number.Rounding
import TableFlow.Proofs.Number.Word
import TableFlow.Proofs.Pipeline.Append
import TableFlow.Proofs.Pipeline.Failure
import TableFlow.Proofs.Pipeline.Join
import TableFlow.Proofs.Pipeline.Log
import TableFlow.Proofs.Pipeline.Matching
import TableFlow.Proofs.Pipeline.Nesting
import TableFlow.Proofs.Pipeline.Progress
import TableFlow.Proofs.Pipeline.RoundTrip
import TableFlow.Proofs.Pipeline.Validity
import TableFlow.Proofs.Pipeline.WellFormed
import TableFlow.Proofs.Sorting.Comparing
import TableFlow.Proofs.Sorting.Lists
import TableFlow.Proofs.Sorting.Merge
import TableFlow.Proofs.Sorting.Stable
import TableFlow.Proofs.Table.ByRows
import TableFlow.Proofs.Table.Calls
import TableFlow.Proofs.Table.Columns
import TableFlow.Proofs.Table.Frame
import TableFlow.Proofs.Table.Grouping
import TableFlow.Proofs.Table.Groups
import TableFlow.Proofs.Table.Refinement
import TableFlow.Proofs.Table.Rows
import TableFlow.Proofs.Table.Taking
import TableFlow.Proofs.Table.WellFormed
import TableFlow.Proofs.Text.Blank
import TableFlow.Proofs.Transform.Aggregate
import TableFlow.Proofs.Transform.Alternatives
import TableFlow.Proofs.Transform.DateParts
import TableFlow.Proofs.Transform.Errors
import TableFlow.Proofs.Transform.Evolution
import TableFlow.Proofs.Transform.Extreme
import TableFlow.Proofs.Transform.Frame
import TableFlow.Proofs.Transform.Functions
import TableFlow.Proofs.Transform.Fusion
import TableFlow.Proofs.Transform.Groupwise
import TableFlow.Proofs.Transform.Independence
import TableFlow.Proofs.Transform.Levels
import TableFlow.Proofs.Transform.Numeric
import TableFlow.Proofs.Transform.Period
import TableFlow.Proofs.Transform.Pivot
import TableFlow.Proofs.Transform.Placement
import TableFlow.Proofs.Transform.Ranking
import TableFlow.Proofs.Transform.Reduction
import TableFlow.Proofs.Transform.Renaming
import TableFlow.Proofs.Transform.Rollup
import TableFlow.Proofs.Transform.RoundTrip
import TableFlow.Proofs.Transform.RowWise
import TableFlow.Proofs.Transform.RunningSum
import TableFlow.Proofs.Transform.Settling
import TableFlow.Proofs.Transform.Tally
import TableFlow.Proofs.Transform.Unbeaten
import TableFlow.Proofs.Transform.WellFormed
import TableFlow.Proofs.Transform.Written
import TableFlow.Sorting
import TableFlow.Table.Basic
import TableFlow.Text.Alphabet
import TableFlow.Text.Blank
import TableFlow.Text.Case
import TableFlow.Text.CaseTable
import TableFlow.Text.Visible
import TableFlow.Transform.Aggregate
import TableFlow.Transform.Basic
import TableFlow.Transform.Cells
import TableFlow.Transform.Check
import TableFlow.Transform.Columns
import TableFlow.Transform.Dates
import TableFlow.Transform.Derive
import TableFlow.Transform.Duration
import TableFlow.Transform.Evolution
import TableFlow.Transform.Extreme
import TableFlow.Transform.Pivot
import TableFlow.Transform.Rank
import TableFlow.Transform.Rollup
import TableFlow.Transform.RunningSum
import TableFlow.Transform.Share
import TableFlow.Transform.Statistics
