import LogSieve.CommandLine.Basic
import LogSieve.CommandLine.Reader
import LogSieve.Entries
import LogSieve.File.Access
import LogSieve.File.Disk
import LogSieve.Filter.Basic
import LogSieve.Filter.Compile
import LogSieve.Filter.Condition
import LogSieve.Filter.Engine
import LogSieve.Filter.Fault
import LogSieve.Filter.Grammar
import LogSieve.Filter.Like
import LogSieve.Filter.Operator
import LogSieve.Filter.Registry
import LogSieve.Filter.TextTest
import LogSieve.Json.Basic
import LogSieve.Json.Fault
import LogSieve.Json.Numeral
import LogSieve.Json.Order
import LogSieve.Json.Printer
import LogSieve.Json.Quoted
import LogSieve.Json.Reader
import LogSieve.Json.Relaxed
import LogSieve.Json.Skip
import LogSieve.Main
import LogSieve.Number.Decimal
import LogSieve.Number.Double
import LogSieve.Program
import LogSieve.Proofs.Entries
import LogSieve.Proofs.File.Disk
import LogSieve.Proofs.Filter.Anywhere
import LogSieve.Proofs.Filter.Canonical
import LogSieve.Proofs.Filter.Compile
import LogSieve.Proofs.Filter.Derivation
import LogSieve.Proofs.Filter.Faults
import LogSieve.Proofs.Filter.Grouping
import LogSieve.Proofs.Filter.Integers
import LogSieve.Proofs.Filter.Like
import LogSieve.Proofs.Filter.Meaning
import LogSieve.Proofs.Filter.Negation
import LogSieve.Proofs.Filter.Null
import LogSieve.Proofs.Filter.Operands
import LogSieve.Proofs.Filter.Regex
import LogSieve.Proofs.Filter.Registry
import LogSieve.Proofs.Filter.Spelling
import LogSieve.Proofs.Filter.Substring
import LogSieve.Proofs.Filter.Unambiguous
import LogSieve.Proofs.Filter.Unfolding
import LogSieve.Proofs.Filter.Weakening
import LogSieve.Proofs.Json.Blanks
import LogSieve.Proofs.Json.Equality
import LogSieve.Proofs.Json.Numeral
import LogSieve.Proofs.Json.Order
import LogSieve.Proofs.Json.Quoted
import LogSieve.Proofs.Number.Digits
import LogSieve.Proofs.Number.Rounding
import LogSieve.Proofs.Outcome
import LogSieve.Proofs.Program.Ending
import LogSieve.Proofs.Program.Refusal
import LogSieve.Proofs.Record.Layout
import LogSieve.Proofs.Record.Serialized
import LogSieve.Proofs.Record.Timestamp
import LogSieve.Proofs.Report.Json
import LogSieve.Proofs.Report.Table
import LogSieve.Proofs.Report.Text
import LogSieve.Proofs.Search.Chronology
import LogSieve.Proofs.Search.Fetches
import LogSieve.Proofs.Search.IdOrder
import LogSieve.Proofs.Search.NamedFields
import LogSieve.Proofs.Search.OwnReport
import LogSieve.Proofs.Search.Positions
import LogSieve.Proofs.Search.Preorder
import LogSieve.Proofs.Search.Refinement
import LogSieve.Proofs.Search.Simple
import LogSieve.Proofs.Search.Sorting
import LogSieve.Proofs.Text.Case
import LogSieve.Record.Basic
import LogSieve.Record.Reader
import LogSieve.Record.Storage
import LogSieve.Record.Timestamp
import LogSieve.Report
import LogSieve.Report.Format
import LogSieve.Report.Table
import LogSieve.Schema
import LogSieve.Search
import LogSieve.Settings
import LogSieve.Text.Blank
import LogSieve.Text.Case
import LogSieve.Text.CaseRun
import LogSieve.Text.Escaped
import LogSieve.Text.Letter
import LogSieve.Text.Mark
import LogSieve.Text.Pictograph
import LogSieve.Text.Ranges
import LogSieve.Text.Unassigned
import LogSieve.Text.Width
import LogSieve.Toml.Basic
import LogSieve.Toml.Document
import LogSieve.Toml.Scalar
