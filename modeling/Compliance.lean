import Compliance.Text.Blank
import Compliance.Text.Quoted
import Compliance.Number.Notation
import Compliance.Number.Reading
import Compliance.Json.Draft
import Compliance.Json.Writer
import Compliance.Time.Timestamp
import Compliance.Time.Duration
import Compliance.Query.Basic
import Compliance.Violation.Basic
import Compliance.Scan.ReportReader
import Compliance.Yaml.Cursor
import Compliance.Yaml.Scalar
import Compliance.Yaml.Token
import Compliance.Yaml.Node
import Compliance.Yaml.Plain
import Compliance.Yaml.Value
import Compliance.Failure
import Compliance.Rule.Document
import Compliance.Scan.Settings
import Compliance.Rule.Import
import Compliance.Scan.Cancellation
import Compliance.Scan.Cooperative
import Compliance.Scan.Run
import Compliance.Scan.Process
import Compliance.Scan.Waiting
import Compliance.Search.CharSet
import Compliance.Search.Expression
import Compliance.Search.Reader
import Compliance.Database.Instant
import Compliance.Database.Value
import Compliance.Database.Relation
import Compliance.Database.Term
import Compliance.Database.Select
import Compliance.Store.Basic
import Compliance.Store.Tables
import Compliance.Store.Rules
import Compliance.Store.Scan
import Compliance.Store.Session
import Compliance.Text.Table
import Compliance.CommandLine.Arguments
import Compliance.CommandLine.Display
import Compliance.CommandLine.Outcome
import Compliance.CommandLine.Project
import Compliance.CommandLine.Run
import Compliance.CommandLine.Memory
import Compliance.Main
import Compliance.Proofs.Sql.Quoting
import Compliance.Proofs.Sql.Writing
import Compliance.Proofs.Query.Layout
import Compliance.Proofs.Result
import Compliance.Proofs.Query.Resolution
import Compliance.Proofs.Query.Confinement
import Compliance.Proofs.Database.Typing
import Compliance.Proofs.Query.Reading
import Compliance.Proofs.Database.Violations
import Compliance.Proofs.Scan.Slots
import Compliance.Proofs.Scan.Schedule
import Compliance.Proofs.Store.Typing
import Compliance.Proofs.Store.Recording
import Compliance.Proofs.Scan.Process
import Compliance.Proofs.Scan.Cancellation
import Compliance.Proofs.Scan.Cooperative
import Compliance.Proofs.Store.Session
import Compliance.Proofs.Store.Scan
import Compliance.Proofs.Store.Reported
import Compliance.Proofs.Store.Rules
import Compliance.Proofs.Store.Isolation
import Compliance.Proofs.Lists
import Compliance.Proofs.Scan.Findings
import Compliance.Proofs.Store.Findings
import Compliance.Proofs.Store.Accounting
import Compliance.Proofs.Store.Listing
import Compliance.Proofs.Store.Statuses
import Compliance.Proofs.Number.Digits
import Compliance.Proofs.Number.Spelling
import Compliance.Proofs.Number.Rounding
import Compliance.Proofs.Number.Shortest
import Compliance.Proofs.Number.RoundTrip
import Compliance.Proofs.Json.Tokens
import Compliance.Proofs.Json.RoundTrip
import Compliance.Proofs.Store.Rows
import Compliance.Proofs.Rule.Import
import Compliance.Proofs.Query.Faults
import Compliance.Proofs.Store.Operations
import Compliance.Proofs.Store.Import
import Compliance.Proofs.Store.History
import Compliance.Proofs.Catalog
import Compliance.Proofs.Scan.Waiting
import Compliance.Proofs.Scan.Progress
import Compliance.Proofs.Store.Preview
import Compliance.Proofs.Store.Provenance
import Compliance.Proofs.Sql.Delimited
import Compliance.Proofs.Rule.Form
import Compliance.Proofs.Rule.Parameters
import Compliance.Proofs.Rule.Grammar
import Compliance.Proofs.Rule.Normal
import Compliance.Proofs.Rule.Relevance
import Compliance.Proofs.Number.Whole
import Compliance.Proofs.Query.Literals
import Compliance.Proofs.Catalog.Grouping
import Compliance.Proofs.Query.Building
import Compliance.Proofs.Query.Compilation
import Compliance.Proofs.Database.Conjunction
import Compliance.Proofs.Violation.Records
import Compliance.Proofs.Store.Inserting
import Compliance.Proofs.Number.Comparison
import Compliance.Proofs.Rule.Sorting
import Compliance.Proofs.Yaml.Reading
import Compliance.Proofs.Rule.Document
import Compliance.Proofs.Text.Bytes
import Compliance.Proofs.Rule.Operator
import Compliance.Proofs.Rule.Complement
import Compliance.Proofs.Scan.Racing
import Compliance.Proofs.Scan.RowCap
import Compliance.Proofs.Time.Calendar
import Compliance.Proofs.Time.Timestamp
import Compliance.Proofs.Json.Pretty
import Compliance.Proofs.Json.Records
import Compliance.Proofs.Scan.ReportReading
import Compliance.Proofs.Scan.SettingsFile
import Compliance.Proofs.Scan.Settings
