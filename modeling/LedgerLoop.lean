import LedgerLoop.Library.Run
import LedgerLoop.Library.LockOrder
import LedgerLoop.Library.Keyset
import LedgerLoop.Library.Table
import LedgerLoop.Library.Earliest
import LedgerLoop.Library.Slice
import LedgerLoop.Library.Binary64
import LedgerLoop.Library.Decimal
import LedgerLoop.Library.Dict
import LedgerLoop.Library.Numbering
import LedgerLoop.Library.Traverse
import LedgerLoop.Library.Stream
import LedgerLoop.Library.PyText
import LedgerLoop.Library.PyInt
import LedgerLoop.Library.PyUuid
import LedgerLoop.Library.FirstWins
import LedgerLoop.Library.Expiring
import LedgerLoop.Library.PyValue
import LedgerLoop.Library.JsText
import LedgerLoop.Library.Calendar
import LedgerLoop.Library.DecimalText
import LedgerLoop.Library.DecimalRound
import LedgerLoop.Library.Ddl
import LedgerLoop.Clock
import LedgerLoop.Db.Models
import LedgerLoop.Db.Schema
import LedgerLoop.Matching.Core
import LedgerLoop.Matching.Verdicts
import LedgerLoop.Worker.Persist
import LedgerLoop.Services.Ingest
import LedgerLoop.Services.IngestCall
import LedgerLoop.Services.LedgerBatch
import LedgerLoop.Services.BatchLocks
import LedgerLoop.Services.Concurrency
import LedgerLoop.Services.Conservation
import LedgerLoop.Services.Tallies
import LedgerLoop.Worker.Loop
import LedgerLoop.Worker.Sweeper
import LedgerLoop.Worker.Latency
import LedgerLoop.Worker.Window
import LedgerLoop.Worker.Search
import LedgerLoop.Services.Queries
import LedgerLoop.Services.Pages
import LedgerLoop.Services.Resolution
import LedgerLoop.Worker.System
import LedgerLoop.Worker.Consistency
import LedgerLoop.Worker.Invariant
import LedgerLoop.Db.Migration
import LedgerLoop.Worker.Evidence
import LedgerLoop.Worker.Stats
import LedgerLoop.Worker.DemoRetention
import LedgerLoop.Worker.Contention
import LedgerLoop.Worker.Pass
import LedgerLoop.Worker.Draining
import LedgerLoop.Worker.Stalling
import LedgerLoop.Worker.Stranding
import LedgerLoop.Worker.OrderIndependence
import LedgerLoop.Worker.Serial
import LedgerLoop.Worker.Submitted
import LedgerLoop.Worker.Marking
import LedgerLoop.Worker.Precedence
import LedgerLoop.Queue.Delivery
import LedgerLoop.Queue.Refinement
import LedgerLoop.Queue.NoLoss
import LedgerLoop.Queue.Turn
import LedgerLoop.Queue.Partition
import LedgerLoop.Services.Tenancy
import LedgerLoop.Services.Anonymous
import LedgerLoop.Services.Accounts
import LedgerLoop.Services.Credentials
import LedgerLoop.Services.Retention
import LedgerLoop.Api.RateLimit
import LedgerLoop.Frontend.Session
import LedgerLoop.Frontend.Upload
import LedgerLoop.Frontend.Money
import LedgerLoop.Frontend.Csv
import LedgerLoop.Frontend.Wire
import LedgerLoop.Frontend.Accounting
import LedgerLoop.Frontend.SandboxId
import LedgerLoop.Worker.Reconciled
import LedgerLoop.Worker.Contents
import LedgerLoop.Services.Recheck
import LedgerLoop.Library.Delimited
import LedgerLoop.Frontend.Mapping
import LedgerLoop.Frontend.Files
import LedgerLoop.Queue.Marking
import LedgerLoop.Queue.Pipeline
import LedgerLoop.Scripts.GenerateLoad
import LedgerLoop.Scripts.LoadRun
import LedgerLoop.Frontend.Generate
import LedgerLoop.Frontend.Prediction
import LedgerLoop.Frontend.GroundTruth
import LedgerLoop.Webhooks.Adapters
import LedgerLoop.Webhooks.EventKeys
import LedgerLoop.Webhooks.Recorded
import LedgerLoop.Webhooks.StripeScheme
import LedgerLoop.Webhooks.MinorUnits
import LedgerLoop.Isolation.Renaming
import LedgerLoop.Isolation.Commands
import LedgerLoop.Isolation.Alone
import LedgerLoop.Isolation.Matching
import LedgerLoop.Isolation.Ingestion
import LedgerLoop.Isolation.Reading
import LedgerLoop.Isolation.Noninterference
import LedgerLoop.Webhooks.SelfTest
import LedgerLoop.Webhooks.Endpoints
