import SourceGuard.Address
import SourceGuard.Address.Printer
import SourceGuard.Address.Reader
import SourceGuard.AddressMap
import SourceGuard.Blocks
import SourceGuard.Capture
import SourceGuard.Capture.Frame
import SourceGuard.Clock
import SourceGuard.CommandLine.Arguments
import SourceGuard.CommandLine.Directive
import SourceGuard.CommandLine.LogFilter
import SourceGuard.CommandLine.LogLine
import SourceGuard.CommandLine.Pattern
import SourceGuard.CommandLine.Pattern.Escape
import SourceGuard.CommandLine.Pattern.Reader
import SourceGuard.CommandLine.Pattern.SetReader
import SourceGuard.CommandLine.Session
import SourceGuard.Config
import SourceGuard.Config.Reader
import SourceGuard.Config.Storage
import SourceGuard.Config.Validation
import SourceGuard.Config.Writer
import SourceGuard.Daemon
import SourceGuard.Enforcement
import SourceGuard.EvaluationLoop
import SourceGuard.Event
import SourceGuard.Fault
import SourceGuard.Files
import SourceGuard.Files.Tree
import SourceGuard.Firewall.Command
import SourceGuard.Firewall.Iptables
import SourceGuard.Json
import SourceGuard.Json.Reader
import SourceGuard.Main
import SourceGuard.Monitor
import SourceGuard.Report.ByteSize
import SourceGuard.Report.JsonLine
import SourceGuard.Report.JsonLine.Reader
import SourceGuard.Report.LogSummary
import SourceGuard.Report.Mode
import SourceGuard.Report.Table
import SourceGuard.Rounding
import SourceGuard.Rule
import SourceGuard.Setup
import SourceGuard.Shutdown
import SourceGuard.Snapshot
import SourceGuard.Text.Blank
import SourceGuard.Text.CaseTable
import SourceGuard.Text.Digits
import SourceGuard.Text.EscapeTable
import SourceGuard.Text.LetterTable
import SourceGuard.Text.LowerCase
import SourceGuard.Text.Quoted
import SourceGuard.Text.Terminal
import SourceGuard.Text.Utf8
import SourceGuard.Toml.Moment
import SourceGuard.Toml.Number
import SourceGuard.Toml.Quote
import SourceGuard.Toml.Reader
import SourceGuard.Toml.Section
import SourceGuard.Toml.Statement
import SourceGuard.Toml.Value
import SourceGuard.Traffic
import SourceGuard.Window
import SourceGuard.Proofs.Address.RoundTrip
import SourceGuard.Proofs.Ageing
import SourceGuard.Proofs.Aggregates
import SourceGuard.Proofs.Audit
import SourceGuard.Proofs.Blocks.Effect
import SourceGuard.Proofs.Blocks.Lifecycle
import SourceGuard.Proofs.Blocks.Lifetime
import SourceGuard.Proofs.Blocks.Passage
import SourceGuard.Proofs.Capture.Extensions
import SourceGuard.Proofs.Capture.Frames
import SourceGuard.Proofs.Capture.Polling
import SourceGuard.Proofs.Comparison
import SourceGuard.Proofs.Config.Partial
import SourceGuard.Proofs.Config.Provocation
import SourceGuard.Proofs.Config.RoundTrip
import SourceGuard.Proofs.Config.Validity
import SourceGuard.Proofs.Daemon
import SourceGuard.Proofs.Evaluation
import SourceGuard.Proofs.Execution
import SourceGuard.Proofs.Files
import SourceGuard.Proofs.Firewall.Replay
import SourceGuard.Proofs.Firewall.RuleCount
import SourceGuard.Proofs.Freshness
import SourceGuard.Proofs.Growth
import SourceGuard.Proofs.History
import SourceGuard.Proofs.Horizon
import SourceGuard.Proofs.Indifference
import SourceGuard.Proofs.Isolation
import SourceGuard.Proofs.Json.RoundTrip
import SourceGuard.Proofs.Justification
import SourceGuard.Proofs.Ledger
import SourceGuard.Proofs.Orders
import SourceGuard.Proofs.Report.ByteSize
import SourceGuard.Proofs.Report.Frames
import SourceGuard.Proofs.Report.JsonLines
import SourceGuard.Proofs.Rounding
import SourceGuard.Proofs.Run
import SourceGuard.Proofs.Shutdown
import SourceGuard.Proofs.Snapshot
import SourceGuard.Proofs.Standing
import SourceGuard.Proofs.Sums
import SourceGuard.Proofs.Text.Digits
import SourceGuard.Proofs.Text.Pieces
import SourceGuard.Proofs.Text.Utf8
import SourceGuard.Proofs.Toml.Documents
import SourceGuard.Proofs.Toml.Texts
import SourceGuard.Proofs.Toml.Values
import SourceGuard.Proofs.Totals
import SourceGuard.Proofs.Traversal
import SourceGuard.Proofs.VolumeWarning
import SourceGuard.Proofs.Watch
