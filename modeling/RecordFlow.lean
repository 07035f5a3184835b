import RecordFlow.Channel
import RecordFlow.Collector
import RecordFlow.Command.Arguments
import RecordFlow.Command.Invocation
import RecordFlow.Command.Parser
import RecordFlow.Command.Settings
import RecordFlow.Compression.Checksum
import RecordFlow.Compression.Deflate.Bits
import RecordFlow.Compression.Deflate.Code
import RecordFlow.Compression.Deflate.Inflated
import RecordFlow.Compression.Format
import RecordFlow.Compression.Gzip.Body
import RecordFlow.Compression.Gzip.Decoder
import RecordFlow.Compression.Gzip.Header
import RecordFlow.Compression.Stream
import RecordFlow.Compression.Zstandard.Block
import RecordFlow.Compression.Zstandard.Decoder
import RecordFlow.Compression.Zstandard.Frame
import RecordFlow.Compression.Zstandard.Header
import RecordFlow.Config.Basic
import RecordFlow.Config.Expansion
import RecordFlow.Config.Lookup
import RecordFlow.Config.Words
import RecordFlow.Counts
import RecordFlow.Csv.Tokenizer
import RecordFlow.Error
import RecordFlow.ExitStatus
import RecordFlow.Files.Path
import RecordFlow.Files.Tree
import RecordFlow.Header
import RecordFlow.Json.Printer
import RecordFlow.Json.Value
import RecordFlow.Ledger
import RecordFlow.LogFilter.Basic
import RecordFlow.LogFilter.Directive
import RecordFlow.LogFilter.Field
import RecordFlow.LogFilter.Level
import RecordFlow.LogFilter.Pattern.Class
import RecordFlow.LogFilter.Pattern.Escape
import RecordFlow.LogFilter.Pattern.Expression
import RecordFlow.LogFilter.Pattern.Mode
import RecordFlow.Main
import RecordFlow.Number.Binary64
import RecordFlow.Number.Decimal
import RecordFlow.Number.Fixed
import RecordFlow.Number.Shortest
import RecordFlow.Outcome
import RecordFlow.Output
import RecordFlow.Pool.Basic
import RecordFlow.Pool.Schedule
import RecordFlow.Progress.Board
import RecordFlow.Progress.Stats
import RecordFlow.Progress.Tracker
import RecordFlow.Proofs.Collector.Forgiving
import RecordFlow.Proofs.Collector.Kinds
import RecordFlow.Proofs.Collector.Operations
import RecordFlow.Proofs.Collector.Threshold
import RecordFlow.Proofs.Collector.Transcript
import RecordFlow.Proofs.Command.Aliases
import RecordFlow.Proofs.Command.Inputs
import RecordFlow.Proofs.Command.Precedence
import RecordFlow.Proofs.Command.Preview
import RecordFlow.Proofs.Command.Requests
import RecordFlow.Proofs.Config.Merging
import RecordFlow.Proofs.Config.Reading
import RecordFlow.Proofs.Config.References
import RecordFlow.Proofs.Csv
import RecordFlow.Proofs.Csv.Layout
import RecordFlow.Proofs.Csv.Scanner
import RecordFlow.Proofs.Error
import RecordFlow.Proofs.Files.Writes
import RecordFlow.Proofs.Fold
import RecordFlow.Proofs.Header
import RecordFlow.Proofs.Json.Document
import RecordFlow.Proofs.Json.Numeral
import RecordFlow.Proofs.Json.Reader
import RecordFlow.Proofs.Json.RoundTrip
import RecordFlow.Proofs.Ledger.Cancelling
import RecordFlow.Proofs.Ledger.Concord
import RecordFlow.Proofs.Ledger.Counting
import RecordFlow.Proofs.Ledger.Entries
import RecordFlow.Proofs.Ledger.Events
import RecordFlow.Proofs.Ledger.Faults
import RecordFlow.Proofs.Ledger.Lenient
import RecordFlow.Proofs.Ledger.Limit
import RecordFlow.Proofs.Ledger.Lines
import RecordFlow.Proofs.Ledger.Order
import RecordFlow.Proofs.Number.Digits
import RecordFlow.Proofs.Number.Order
import RecordFlow.Proofs.Number.Rounding
import RecordFlow.Proofs.Places
import RecordFlow.Proofs.Pool.Calls
import RecordFlow.Proofs.Pool.Conservation
import RecordFlow.Proofs.Pool.Crashes
import RecordFlow.Proofs.Pool.Permits
import RecordFlow.Proofs.Pool.Progress
import RecordFlow.Proofs.Pool.Served
import RecordFlow.Proofs.Pool.Service
import RecordFlow.Proofs.Pool.Steps
import RecordFlow.Proofs.Progress.Lifecycle
import RecordFlow.Proofs.Progress.Remaining
import RecordFlow.Proofs.Record
import RecordFlow.Proofs.Report.Characters
import RecordFlow.Proofs.Report.Export
import RecordFlow.Proofs.Report.Ranking
import RecordFlow.Proofs.Report.ShortForm
import RecordFlow.Proofs.Run.Accounting
import RecordFlow.Proofs.Run.Breach
import RecordFlow.Proofs.Run.Calls
import RecordFlow.Proofs.Run.Cancellation
import RecordFlow.Proofs.Run.Concord
import RecordFlow.Proofs.Run.Delivery
import RecordFlow.Proofs.Run.Failures
import RecordFlow.Proofs.Run.Followed
import RecordFlow.Proofs.Run.Limit
import RecordFlow.Proofs.Run.Lossless
import RecordFlow.Proofs.Run.Progress
import RecordFlow.Proofs.Run.Shutdown
import RecordFlow.Proofs.Run.Sources
import RecordFlow.Proofs.Run.Stopped
import RecordFlow.Proofs.Run.Streams
import RecordFlow.Proofs.Run.Trace
import RecordFlow.Proofs.Run.Undisturbed
import RecordFlow.Proofs.Run.Validation
import RecordFlow.Proofs.Semaphore
import RecordFlow.Proofs.Source.Agreement
import RecordFlow.Proofs.Source.Census
import RecordFlow.Proofs.Source.Contrast
import RecordFlow.Proofs.Source.Errors
import RecordFlow.Proofs.Source.Isolation
import RecordFlow.Proofs.Source.Names
import RecordFlow.Proofs.Source.Origins
import RecordFlow.Proofs.Source.Positions
import RecordFlow.Proofs.Source.Progress
import RecordFlow.Proofs.Source.Rows
import RecordFlow.Proofs.Source.Session
import RecordFlow.Proofs.Source.Slots
import RecordFlow.Proofs.Source.Stream
import RecordFlow.Proofs.Source.Strictness
import RecordFlow.Proofs.Source.Transparency
import RecordFlow.Proofs.Source.Uncompared
import RecordFlow.Proofs.Source.Verdicts
import RecordFlow.Proofs.Split
import RecordFlow.Proofs.Utf8
import RecordFlow.Record
import RecordFlow.Report
import RecordFlow.Run.Basic
import RecordFlow.Run.Flow
import RecordFlow.Run.Schedule
import RecordFlow.Scope
import RecordFlow.Semaphore
import RecordFlow.Source.Emission
import RecordFlow.Source.Input
import RecordFlow.Source.Name
import RecordFlow.Source.Reading
import RecordFlow.Summary
import RecordFlow.Text.Blank
import RecordFlow.Text.Cut
import RecordFlow.Text.Letter
import RecordFlow.Text.Lowercase
import RecordFlow.Text.Shown
import RecordFlow.Text.Utf8
import RecordFlow.Time.Calendar
import RecordFlow.Time.Duration
import RecordFlow.Time.Units
