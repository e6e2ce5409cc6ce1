import BatchInsert.Binary.Bytes
import BatchInsert.Binary.Number
import BatchInsert.Binary.Shortest
import BatchInsert.Binding
import BatchInsert.Builder
import BatchInsert.Builtin
import BatchInsert.Calendar.Date
import BatchInsert.Calendar.Reader
import BatchInsert.Calendar.Time
import BatchInsert.Database.Backend
import BatchInsert.Database.Error
import BatchInsert.Database.Placeholders
import BatchInsert.Database.Server
import BatchInsert.Decimal.Basic
import BatchInsert.Decimal.Reader
import BatchInsert.Document.Mismatch
import BatchInsert.Environment
import BatchInsert.Failure
import BatchInsert.Json.Basic
import BatchInsert.Json.Cursor
import BatchInsert.Json.Lexeme
import BatchInsert.Json.Printer
import BatchInsert.Json.Reader
import BatchInsert.Json.Skip
import BatchInsert.Log
import BatchInsert.Memory
import BatchInsert.Mysql.Backend
import BatchInsert.Mysql.Datum
import BatchInsert.Mysql.Options
import BatchInsert.Ordered
import BatchInsert.Plan
import BatchInsert.Postgres.Backend
import BatchInsert.Postgres.Datum
import BatchInsert.Postgres.Options
import BatchInsert.Power
import BatchInsert.Proofs.AddressText
import BatchInsert.Proofs.Announcements
import BatchInsert.Proofs.ArityGate
import BatchInsert.Proofs.BindingOrder
import BatchInsert.Proofs.Building
import BatchInsert.Proofs.CalendarText
import BatchInsert.Proofs.Calls
import BatchInsert.Proofs.CauseChains
import BatchInsert.Proofs.Classification
import BatchInsert.Proofs.Client
import BatchInsert.Proofs.Closing
import BatchInsert.Proofs.Conformance
import BatchInsert.Proofs.Counters
import BatchInsert.Proofs.DeclaredTypes
import BatchInsert.Proofs.Discarding
import BatchInsert.Proofs.Disconnection
import BatchInsert.Proofs.EuropeanNames
import BatchInsert.Proofs.Expansion
import BatchInsert.Proofs.FailedWrites
import BatchInsert.Proofs.Fields
import BatchInsert.Proofs.FirstRejection
import BatchInsert.Proofs.FlushTime
import BatchInsert.Proofs.FullBatches
import BatchInsert.Proofs.HostText
import BatchInsert.Proofs.Hosts
import BatchInsert.Proofs.InspectedUrls
import BatchInsert.Proofs.Isolation
import BatchInsert.Proofs.Journal
import BatchInsert.Proofs.JsonText
import BatchInsert.Proofs.LastValues
import BatchInsert.Proofs.Leftover
import BatchInsert.Proofs.Lexemes
import BatchInsert.Proofs.Loading
import BatchInsert.Proofs.Lockstep
import BatchInsert.Proofs.Members
import BatchInsert.Proofs.NullColumns
import BatchInsert.Proofs.Numerals
import BatchInsert.Proofs.Opening
import BatchInsert.Proofs.PartialFailure
import BatchInsert.Proofs.PathText
import BatchInsert.Proofs.Pending
import BatchInsert.Proofs.Positions
import BatchInsert.Proofs.Printed
import BatchInsert.Proofs.Protocol
import BatchInsert.Proofs.Purity
import BatchInsert.Proofs.Reading
import BatchInsert.Proofs.RecordText
import BatchInsert.Proofs.RecordedRows
import BatchInsert.Proofs.RedactedText
import BatchInsert.Proofs.Redaction
import BatchInsert.Proofs.ReferenceScan
import BatchInsert.Proofs.Registrations
import BatchInsert.Proofs.Retrying
import BatchInsert.Proofs.ScalarText
import BatchInsert.Proofs.Secrecy
import BatchInsert.Proofs.SentTimes
import BatchInsert.Proofs.SettingsSchema
import BatchInsert.Proofs.SettingsText
import BatchInsert.Proofs.Simulation
import BatchInsert.Proofs.Skipping
import BatchInsert.Proofs.Strings
import BatchInsert.Proofs.Substitution
import BatchInsert.Proofs.TagCodes
import BatchInsert.Proofs.ToldValues
import BatchInsert.Proofs.Trace
import BatchInsert.Proofs.Userinfo
import BatchInsert.Proofs.Values
import BatchInsert.Record
import BatchInsert.Registry
import BatchInsert.Secret
import BatchInsert.Settings.Basic
import BatchInsert.Settings.File
import BatchInsert.Settings.Json
import BatchInsert.Settings.Schema
import BatchInsert.Settings.Yaml
import BatchInsert.Sql.Document
import BatchInsert.Sql.Param
import BatchInsert.Sql.Tag
import BatchInsert.Stats
import BatchInsert.Text.Blank
import BatchInsert.Text.Case
import BatchInsert.Text.Inspect
import BatchInsert.Text.Lossy
import BatchInsert.Text.Numeral
import BatchInsert.Text.Printable
import BatchInsert.Text.Quoted
import BatchInsert.Url
import BatchInsert.Url.European
import BatchInsert.Url.Form
import BatchInsert.Url.Host
import BatchInsert.Url.Names
import BatchInsert.Url.Percent
import BatchInsert.Url.Punycode
import BatchInsert.Uuid
import BatchInsert.Value.Basic
import BatchInsert.Value.Document
import BatchInsert.Value.Reader
import BatchInsert.Writer
import BatchInsert.Yaml.Cursor
import BatchInsert.Yaml.Event
import BatchInsert.Yaml.Fault
import BatchInsert.Yaml.Lexer
import BatchInsert.Yaml.Nodes
import BatchInsert.Yaml.Reader
import BatchInsert.Yaml.Resolution
import BatchInsert.Yaml.Scalar.Block
import BatchInsert.Yaml.Scalar.Gap
import BatchInsert.Yaml.Scalar.Plain
import BatchInsert.Yaml.Scalar.Quoted
import BatchInsert.Yaml.Tag
import BatchInsert.Yaml.Token
