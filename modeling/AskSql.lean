import AskSql.Cache.Basic
import AskSql.Cache.Entry
import AskSql.Cache.Key
import AskSql.Cache.Snapshot
import AskSql.Cli.Names
import AskSql.Cli.Report
import AskSql.Cli.Run
import AskSql.Cli.Usage
import AskSql.Csv
import AskSql.Database.Adapter
import AskSql.Database.Catalog
import AskSql.Database.Cell
import AskSql.Database.Connection
import AskSql.Database.Dialect
import AskSql.Database.Row
import AskSql.Database.Url
import AskSql.Database.Wire
import AskSql.Decimal.Reading
import AskSql.Decimal.Shortest
import AskSql.Decimal.Width
import AskSql.Diagnosis
import AskSql.Digest.Bytes
import AskSql.Digest.Sha256
import AskSql.Disguise.Basic
import AskSql.Disguise.NameIndex
import AskSql.Disguise.Renaming
import AskSql.EnvFile
import AskSql.Error
import AskSql.Files.Basic
import AskSql.Files.Stores
import AskSql.History.Basic
import AskSql.History.Item
import AskSql.Http.Answer
import AskSql.Http.Message
import AskSql.Http.Routes
import AskSql.Http.Server
import AskSql.Json.Basic
import AskSql.Json.Bytes
import AskSql.Json.Decode
import AskSql.Json.Fault
import AskSql.Json.Lexeme
import AskSql.Json.Node
import AskSql.Json.Printer
import AskSql.Main
import AskSql.Model.Chat
import AskSql.Model.Client
import AskSql.Model.Config
import AskSql.Pipeline.Attempt
import AskSql.Pipeline.Peers
import AskSql.Pipeline.Request
import AskSql.Pipeline.Run
import AskSql.Pipeline.Settings
import AskSql.Pipeline.View
import AskSql.Policy.Basic
import AskSql.Policy.Keyword
import AskSql.Policy.Limit
import AskSql.Prompt.Basic
import AskSql.Prompt.SchemaText
import AskSql.Rehearsal.Chat
import AskSql.Rehearsal.Script
import AskSql.Rehearsal.Server
import AskSql.Schema
import AskSql.Service
import AskSql.Sql.Token
import AskSql.Text.Chars
import AskSql.Text.Similarity
import AskSql.Text.Utf8
import AskSql.Time.Calendar
import AskSql.Time.Instant
import AskSql.Time.Stamp
import AskSql.Unicode.Blank
import AskSql.Unicode.Case
import AskSql.Unicode.CaseTable
import AskSql.Unicode.Letter
import AskSql.Unicode.Mark
import AskSql.Unicode.Number
import AskSql.Unicode.Ranges
import AskSql.Proofs.Keyword
import AskSql.Proofs.Limit
import AskSql.Proofs.Pipeline.Exchange
import AskSql.Proofs.Pipeline.Course
import AskSql.Proofs.Pipeline.Run
import AskSql.Proofs.Pipeline.Safety
import AskSql.Proofs.Pipeline.Progress
import AskSql.Proofs.Pipeline.Undisturbed
import AskSql.Rehearsal.Desk
import AskSql.Proofs.Pipeline.Repair
import AskSql.Proofs.Pipeline.Ending
import AskSql.Proofs.Pipeline.Release
import AskSql.Proofs.Cache
import AskSql.Proofs.Sql.Token
import AskSql.Proofs.Disguise.NameIndex
import AskSql.Proofs.Disguise.Secrecy
import AskSql.Proofs.Disguise.Renaming
import AskSql.Proofs.Disguise.RoundTrip
import AskSql.Proofs.Disguise.Placeholders
import AskSql.Proofs.Sql.Words
import AskSql.Proofs.Disguise.Hiding
import AskSql.Proofs.Pipeline.Disclosure
import AskSql.Proofs.Json.Unambiguous
import AskSql.Proofs.Schema
import AskSql.Proofs.Cache.Key
import AskSql.Proofs.Pipeline.Visits
import AskSql.Proofs.Pipeline.Provenance
import AskSql.Proofs.Pipeline.Determined
import AskSql.Proofs.Pipeline.Privacy
import AskSql.Proofs.History
import AskSql.Proofs.Json.Numeral
import AskSql.Proofs.Json.Outline
import AskSql.Proofs.Json.Reading
import AskSql.Proofs.Json.Record
import AskSql.Proofs.Json.Pretty
import AskSql.Proofs.Time.Calendar
import AskSql.Proofs.Time.Stamp
import AskSql.Proofs.Cache.Snapshot
import AskSql.Proofs.Cache.Reopen
import AskSql.Proofs.Wire
import AskSql.Proofs.Json.Members
import AskSql.Proofs.History.Listed
import AskSql.Proofs.History.Exported
import AskSql.Proofs.History.Moves
import AskSql.Proofs.Disguise.Nested
import AskSql.Proofs.Disguise.Alias
import AskSql.Proofs.Disguise.Tokenwise
import AskSql.Proofs.Disguise.United
import AskSql.Proofs.Disguise.Kinds
import AskSql.Proofs.Disguise.Lookup
import AskSql.Proofs.Disguise.Keys
import AskSql.Proofs.Pipeline.Sample
import AskSql.Proofs.Disguise.ResultColumns
import AskSql.Proofs.Disguise.Prose
import AskSql.Proofs.Pipeline.Summary
import AskSql.Proofs.Policy.Verdict
import AskSql.Proofs.Sql.Clause
import AskSql.Proofs.Database.Rows
import AskSql.Proofs.History.Imported
import AskSql.Proofs.Csv.Reader
import AskSql.Proofs.Csv.RoundTrip
import AskSql.Proofs.Csv.Sink
import AskSql.Proofs.Http.Message
import AskSql.Proofs.Diagnosis
import AskSql.Proofs.Database.Cell
import AskSql.Proofs.Sql.Lossless
