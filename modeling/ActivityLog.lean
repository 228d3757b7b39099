import ActivityLog.CommandLine.Arguments
import ActivityLog.CommandLine.FileTree
import ActivityLog.CommandLine.Process
import ActivityLog.CommandLine.Run
import ActivityLog.Config
import ActivityLog.Display
import ActivityLog.Entry
import ActivityLog.Ingest
import ActivityLog.Json
import ActivityLog.Main
import ActivityLog.Ordered
import ActivityLog.Proofs.CommandLine.Course
import ActivityLog.Proofs.CommandLine.Order
import ActivityLog.Proofs.CommandLine.Script
import ActivityLog.Proofs.Display.Answers
import ActivityLog.Proofs.Display.Summary
import ActivityLog.Proofs.Entry.Faults
import ActivityLog.Proofs.Entry.Reader
import ActivityLog.Proofs.Ingest.Account
import ActivityLog.Proofs.Ingest.LineEnds
import ActivityLog.Proofs.Json
import ActivityLog.Proofs.Ordered
import ActivityLog.Proofs.Query.DateClause
import ActivityLog.Proofs.Query.DrillDown
import ActivityLog.Proofs.Query.Forms
import ActivityLog.Proofs.Query.Listing
import ActivityLog.Proofs.Query.Meaning
import ActivityLog.Proofs.Query.Outcome
import ActivityLog.Proofs.Query.RoundTrip
import ActivityLog.Proofs.Query.Trim
import ActivityLog.Proofs.Store.First
import ActivityLog.Proofs.Store.Join
import ActivityLog.Proofs.Store.Question
import ActivityLog.Proofs.Store.Tasks
import ActivityLog.Proofs.Text.Blank
import ActivityLog.Proofs.Text.Cut
import ActivityLog.Proofs.Text.Decimal
import ActivityLog.Proofs.Text.Lines
import ActivityLog.Proofs.Timestamp
import ActivityLog.Query.Answer
import ActivityLog.Query.Request
import ActivityLog.Store
import ActivityLog.Text.Basic
import ActivityLog.Text.Decimal
import ActivityLog.Text.Quoted
import ActivityLog.Timestamp
import ActivityLog.Toml.Quoted
import ActivityLog.Toml.Reader
import ActivityLog.Toml.Scalar
import ActivityLog.Toml.Table
import ActivityLog.Proofs.Config
