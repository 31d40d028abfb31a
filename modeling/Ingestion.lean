import Ingestion.Blueprint.Basic
import Ingestion.Blueprint.Patch
import Ingestion.Blueprint.Query
import Ingestion.Config
import Ingestion.Cron.Expression
import Ingestion.Cron.Field
import Ingestion.Cron.Schedule
import Ingestion.Decoding
import Ingestion.Encoding
import Ingestion.Error
import Ingestion.Http.Form
import Ingestion.Http.Handler
import Ingestion.Http.MediaType
import Ingestion.Http.Percent
import Ingestion.Http.Router
import Ingestion.Http.Target
import Ingestion.Json.Basic
import Ingestion.Json.Decoder
import Ingestion.Json.Document
import Ingestion.Json.Double
import Ingestion.Json.Printer
import Ingestion.Json.Reader
import Ingestion.Main
import Ingestion.Pipeline
import Ingestion.Plan.Basic
import Ingestion.Plugin.Catalog
import Ingestion.Plugin.Generator
import Ingestion.Plugin.Metric
import Ingestion.Plugin.Registry
import Ingestion.Plugin.Source
import Ingestion.Project
import Ingestion.Proofs.Blueprint.Composition
import Ingestion.Proofs.Blueprint.Patch
import Ingestion.Proofs.Blueprint.RoundTrip
import Ingestion.Proofs.Concurrent.Acceptance
import Ingestion.Proofs.Concurrent.Admission
import Ingestion.Proofs.Concurrent.Contest
import Ingestion.Proofs.Concurrent.Deletion
import Ingestion.Proofs.Concurrent.Freshness
import Ingestion.Proofs.Concurrent.Measuring
import Ingestion.Proofs.Concurrent.Ownership
import Ingestion.Proofs.Concurrent.Patching
import Ingestion.Proofs.Concurrent.ProjectLookup
import Ingestion.Proofs.Concurrent.Records
import Ingestion.Proofs.Concurrent.Revalidation
import Ingestion.Proofs.Concurrent.Rivalry
import Ingestion.Proofs.Concurrent.Steps
import Ingestion.Proofs.Concurrent.Submission
import Ingestion.Proofs.Concurrent.System
import Ingestion.Proofs.Concurrent.Triggering
import Ingestion.Proofs.Concurrent.Validity
import Ingestion.Proofs.Cron.Conditions
import Ingestion.Proofs.Cron.Descriptors
import Ingestion.Proofs.Cron.Occurrence
import Ingestion.Proofs.Cron.Search
import Ingestion.Proofs.Decoding
import Ingestion.Proofs.Faults.Calls
import Ingestion.Proofs.Faults.Outcome
import Ingestion.Proofs.Http.Discretion
import Ingestion.Proofs.Json.RoundTrip
import Ingestion.Proofs.Json.SameData
import Ingestion.Proofs.Plan.Combination
import Ingestion.Proofs.Plugin.Catalog
import Ingestion.Proofs.Plugin.Collecting
import Ingestion.Proofs.Plugin.Expansion
import Ingestion.Proofs.Plugin.Mapping
import Ingestion.Proofs.Request.Alike
import Ingestion.Proofs.Request.Command
import Ingestion.Proofs.Request.Protocol
import Ingestion.Proofs.Request.Record
import Ingestion.Proofs.Request.Running
import Ingestion.Proofs.Request.Upkeep
import Ingestion.Proofs.Request.Validation
import Ingestion.Proofs.Schedule.Engine
import Ingestion.Proofs.Schedule.History
import Ingestion.Proofs.Schedule.Listing
import Ingestion.Proofs.Schedule.Operations
import Ingestion.Proofs.Schedule.Pending
import Ingestion.Proofs.Schedule.Rebuild
import Ingestion.Proofs.Schedule.Reconcile
import Ingestion.Proofs.Schedule.Timeline
import Ingestion.Proofs.Schedule.Timer
import Ingestion.Proofs.Simulation.Alike
import Ingestion.Proofs.Sql.Overwriting
import Ingestion.Proofs.Sql.Paging
import Ingestion.Proofs.Sql.Reading
import Ingestion.Proofs.Sql.Selection
import Ingestion.Proofs.Sql.Server
import Ingestion.Proofs.Sql.Storage
import Ingestion.Proofs.Sql.Upsert
import Ingestion.Proofs.Sql.Width
import Ingestion.Proofs.Store.Category
import Ingestion.Proofs.Store.Listing
import Ingestion.Proofs.Store.Settings
import Ingestion.Proofs.Table
import Ingestion.Proofs.Text.Digits
import Ingestion.Proofs.Text.Fields
import Ingestion.Proofs.Text.Identifier
import Ingestion.Proofs.Time.Calendar
import Ingestion.Proofs.Time.Column
import Ingestion.Proofs.Time.Instant
import Ingestion.Proofs.Time.Timestamp
import Ingestion.Proofs.Time.Weekday
import Ingestion.Request.Program
import Ingestion.Request.Run
import Ingestion.Request.Service
import Ingestion.Request.Validation
import Ingestion.Schedule.Agenda
import Ingestion.Schedule.Engine
import Ingestion.Simulation.Desk
import Ingestion.Simulation.World
import Ingestion.Sql.Address
import Ingestion.Sql.Datum
import Ingestion.Sql.Record
import Ingestion.Sql.Schema
import Ingestion.Sql.Statement
import Ingestion.Sql.Store
import Ingestion.Store.Memory
import Ingestion.Table
import Ingestion.Text
import Ingestion.Text.Case
import Ingestion.Text.CaseTable
import Ingestion.Text.Utf8
import Ingestion.Time.Date
import Ingestion.Time.Format
import Ingestion.Time.Instant
import Ingestion.Url.Basic
import Ingestion.Url.Host
import Ingestion.Uuid
