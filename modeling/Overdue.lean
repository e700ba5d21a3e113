import Overdue.Calendar.Date
import Overdue.Calendar.Day
import Overdue.Calendar.Duration
import Overdue.Calendar.Written
import Overdue.CommandLine.Arguments
import Overdue.CommandLine.Choices
import Overdue.CommandLine.Option
import Overdue.CommandLine.Settings
import Overdue.CommandLine.Usage
import Overdue.Comment.Language
import Overdue.Comment.Style
import Overdue.Digest.Sha256
import Overdue.Domain.Folding
import Overdue.Domain.Name
import Overdue.Files
import Overdue.Finding.Basic
import Overdue.Finding.Identifier
import Overdue.Finding.Record
import Overdue.Finding.Urgency
import Overdue.Git.Match
import Overdue.Git.Reply
import Overdue.Git.Repository
import Overdue.Git.Scan
import Overdue.History.Attribution
import Overdue.Json.Canonical
import Overdue.Json.Double
import Overdue.Json.Number
import Overdue.Json.Printer
import Overdue.Json.Range
import Overdue.Json.Reader
import Overdue.Json.Value
import Overdue.Main
import Overdue.Note.Basic
import Overdue.Note.Reader
import Overdue.Program
import Overdue.Proofs.Access
import Overdue.Proofs.Calendar.Count
import Overdue.Proofs.Calendar.Day
import Overdue.Proofs.Calendar.Order
import Overdue.Proofs.Calendar.Reader
import Overdue.Proofs.Calendar.Written
import Overdue.Proofs.CommandLine.Arguments
import Overdue.Proofs.Comment.Marker
import Overdue.Proofs.Comment.Style
import Overdue.Proofs.Files
import Overdue.Proofs.Finding.Found
import Overdue.Proofs.Finding.Identifier
import Overdue.Proofs.Finding.Record
import Overdue.Proofs.Finding.Urgency
import Overdue.Proofs.Git.Match
import Overdue.Proofs.Git.Scan
import Overdue.Proofs.Git.Trimming
import Overdue.Proofs.History.Attribution
import Overdue.Proofs.History.Facts
import Overdue.Proofs.Json.RoundTrip
import Overdue.Proofs.Json.Scalar
import Overdue.Proofs.Note.Grammar
import Overdue.Proofs.Note.Parts
import Overdue.Proofs.Note.Reader
import Overdue.Proofs.Note.RoundTrip
import Overdue.Proofs.Program
import Overdue.Proofs.Report.Agreement
import Overdue.Proofs.Report.Bars
import Overdue.Proofs.Report.Columns
import Overdue.Proofs.Survey.Days
import Overdue.Proofs.Survey.Fanout
import Overdue.Proofs.Survey.Findings
import Overdue.Proofs.Survey.Leeway
import Overdue.Proofs.Survey.Lookups
import Overdue.Proofs.Survey.Timeline
import Overdue.Proofs.Tracker.Acceptance
import Overdue.Proofs.Tracker.Account
import Overdue.Proofs.Tracker.Assignee
import Overdue.Proofs.Tracker.Authorization
import Overdue.Proofs.Tracker.Exchange
import Overdue.Proofs.Tracker.FileLink
import Overdue.Proofs.Tracker.Filing
import Overdue.Proofs.Tracker.Hosting
import Overdue.Proofs.Tracker.IssueLines
import Overdue.Proofs.Tracker.IssueText
import Overdue.Proofs.Tracker.Plain
import Overdue.Proofs.Tracker.Refiling
import Overdue.Proofs.Tracker.Requests
import Overdue.Proofs.Tracker.Target
import Overdue.Report.Format
import Overdue.Report.Markdown
import Overdue.Report.Table
import Overdue.Run
import Overdue.Snapshot
import Overdue.Survey.Basic
import Overdue.Survey.Fanout
import Overdue.Survey.Timeline
import Overdue.Text.Blank
import Overdue.Text.Column
import Overdue.Text.Composition
import Overdue.Text.Direction
import Overdue.Text.Integer
import Overdue.Text.Joining
import Overdue.Text.Lines
import Overdue.Text.Mark
import Overdue.Text.Punycode
import Overdue.Text.Quoted
import Overdue.Text.Table
import Overdue.Text.Terminal
import Overdue.Text.Utf8
import Overdue.Text.Word
import Overdue.Tracker.Authority
import Overdue.Tracker.Exchange
import Overdue.Tracker.Filing
import Overdue.Tracker.Hosting
import Overdue.Tracker.Issue
import Overdue.Tracker.IssueText
import Overdue.Tracker.Location
import Overdue.Tracker.Request
import Overdue.Tracker.Response
import Overdue.Tracker.Server
import Overdue.Tracker.Target
