import CardInventory.Api.Body.Card
import CardInventory.Api.Body.Deck
import CardInventory.Api.Body.Movement
import CardInventory.Api.Body.User
import CardInventory.Api.Cors
import CardInventory.Api.Endpoint.Basic
import CardInventory.Api.Endpoint.Binder
import CardInventory.Api.Endpoint.Cards
import CardInventory.Api.Endpoint.Decks
import CardInventory.Api.Endpoint.Movements
import CardInventory.Api.Endpoint.Users
import CardInventory.Api.Http
import CardInventory.Api.MediaType
import CardInventory.Api.Page
import CardInventory.Api.Problem
import CardInventory.Api.Query
import CardInventory.Api.Router
import CardInventory.Api.Service
import CardInventory.Api.Task
import CardInventory.Catalog.Card
import CardInventory.Catalog.Filter
import CardInventory.Collection.Binder
import CardInventory.Collection.Deck
import CardInventory.Collection.User
import CardInventory.CommandLine
import CardInventory.Database.Address
import CardInventory.Database.Answer
import CardInventory.Database.Connection
import CardInventory.Database.Criteria
import CardInventory.Database.Exchange
import CardInventory.Database.Migration
import CardInventory.Database.Record
import CardInventory.Database.Row
import CardInventory.Database.Schema
import CardInventory.Database.Service
import CardInventory.Database.Statement
import CardInventory.Database.Transaction
import CardInventory.Database.Value
import CardInventory.Decimal.Reading
import CardInventory.Decimal.Shortest
import CardInventory.Instant.Basic
import CardInventory.Instant.Calendar
import CardInventory.Instant.Parser
import CardInventory.Inventory.Operation
import CardInventory.Inventory.Rules
import CardInventory.Json.Basic
import CardInventory.Json.Format
import CardInventory.Json.Reader
import CardInventory.Json.Writer
import CardInventory.Ledger.Basic
import CardInventory.Ledger.Binder
import CardInventory.Ledger.Deck
import CardInventory.Ledger.DeckList
import CardInventory.Ledger.Failure
import CardInventory.Ledger.Movement
import CardInventory.Logging.Directive
import CardInventory.Logging.Filter
import CardInventory.Logging.Record
import CardInventory.Main
import CardInventory.Memory.Answer
import CardInventory.Memory.Depot
import CardInventory.Memory.Service
import CardInventory.Memory.Store
import CardInventory.Memory.Table
import CardInventory.Procedure
import CardInventory.Program.Journal
import CardInventory.Program.Launch
import CardInventory.Program.Listener
import CardInventory.Settings.Basic
import CardInventory.Settings.Environment
import CardInventory.Settings.Literal
import CardInventory.Settings.Load
import CardInventory.Settings.Reading
import CardInventory.Settings.Value
import CardInventory.Storage.Fault
import CardInventory.Storage.Request
import CardInventory.Telemetry.Endpoint
import CardInventory.Telemetry.Exporter
import CardInventory.Text.Blank
import CardInventory.Text.LowerCase
import CardInventory.Text.LowerCase.Table
import CardInventory.Text.Percent
import CardInventory.Text.Utf8
import CardInventory.Url.Basic
import CardInventory.Url.Encoding
import CardInventory.Url.Host
import CardInventory.Uuid
import CardInventory.Width
import CardInventory.Zone
import CardInventory.Proofs.Memory.Schema
import CardInventory.Proofs.Procedure
import CardInventory.Proofs.Memory.Answer
import CardInventory.Proofs.Memory.Session
import CardInventory.Proofs.Memory.Totals
import CardInventory.Proofs.Memory.Scan
import CardInventory.Proofs.Ledger.Basic
import CardInventory.Proofs.Ledger.Binder
import CardInventory.Proofs.Ledger.Deck
import CardInventory.Proofs.Memory.Movement
import CardInventory.Proofs.Ledger.Movement
import CardInventory.Proofs.Ledger.Release
import CardInventory.Proofs.Ledger.FailFast
import CardInventory.Proofs.Inventory.Effect
import CardInventory.Proofs.Inventory.Reachable
import CardInventory.Proofs.Inventory.Capacity
import CardInventory.Proofs.Inventory.Conservation
import CardInventory.Proofs.Text.Blank
import CardInventory.Proofs.Ledger.Fault
import CardInventory.Proofs.Inventory.CheckedDeck
import CardInventory.Proofs.Inventory.Conflict
import CardInventory.Proofs.Inventory.Attainable
import CardInventory.Proofs.Api.Endpoint
import CardInventory.Proofs.Memory.Service
import CardInventory.Proofs.Assurance
import CardInventory.Proofs.Database.Trace
import CardInventory.Proofs.Database.Unit
import CardInventory.Proofs.Database.Access
import CardInventory.Proofs.Database.Quiet
import CardInventory.Proofs.Database.Reply
import CardInventory.Proofs.Database.Book
import CardInventory.Proofs.Database.Balance
import CardInventory.Proofs.Database.DoubleEntry
import CardInventory.Proofs.Database.Order
import CardInventory.Proofs.Database.Locks
import CardInventory.Proofs.Database.Deadlock
import CardInventory.Proofs.Database.Course
import CardInventory.Proofs.Database.Policy
import CardInventory.Proofs.Database.Commit
import CardInventory.Proofs.Memory.Shared
import CardInventory.Proofs.Inventory.Concurrent
import CardInventory.Proofs.Coupling
import CardInventory.Proofs.Memory.Untimed
import CardInventory.Proofs.Memory.Agreement
import CardInventory.Proofs.Memory.Locality
import CardInventory.Proofs.Ledger.Locality
import CardInventory.Proofs.Inventory.Independence
import CardInventory.Proofs.Inventory.Statuses
import CardInventory.Proofs.Api.Route
import CardInventory.Proofs.Api.Documented
import CardInventory.Proofs.Memory.Documented
import CardInventory.Proofs.Inventory.Permanence
import CardInventory.Proofs.Memory.Arithmetic
import CardInventory.Proofs.Inventory.Arithmetic
import CardInventory.Proofs.Uuid
import CardInventory.Proofs.Memory.Listing
import CardInventory.Proofs.Ledger.Report
import CardInventory.Proofs.Memory.Readback
import CardInventory.Proofs.Text.Utf8
import CardInventory.Proofs.Api.Path
import CardInventory.Proofs.Json.Scan
import CardInventory.Proofs.Json.Compound
import CardInventory.Proofs.Json.Format
import CardInventory.Proofs.Json.Record
import CardInventory.Proofs.Instant.Calendar
import CardInventory.Proofs.Instant.Text
import CardInventory.Proofs.Api.Body
import CardInventory.Proofs.Memory.Place
import CardInventory.Proofs.Ledger.Cause
import CardInventory.Proofs.Ledger.Relocation
import CardInventory.Proofs.Ledger.Return
import CardInventory.Proofs.Inventory.Outcome
import CardInventory.Proofs.Database.Wording
import CardInventory.Proofs.Text.Order
import CardInventory.Proofs.Memory.Order
import CardInventory.Proofs.Inventory.Answers
import CardInventory.Proofs.Inventory.Counts
import CardInventory.Proofs.Memory.Browsing
import CardInventory.Proofs.Database.Expression
import CardInventory.Proofs.Database.Criteria
import CardInventory.Proofs.Database.Matching
import CardInventory.Proofs.Database.Assignment
import CardInventory.Proofs.Inventory.Amendment
import CardInventory.Proofs.Text.LowerCase
import CardInventory.Proofs.Catalog.Literal
import CardInventory.Proofs.Ledger.DeckList
import CardInventory.Proofs.Memory.Shift
import CardInventory.Proofs.Inventory.Carriage
import CardInventory.Proofs.Inventory.Addition
import CardInventory.Proofs.Inventory.Undoing
import CardInventory.Proofs.Text.Offset
import CardInventory.Proofs.Database.Duplicate
import CardInventory.Proofs.Database.Faces
import CardInventory.Proofs.Inventory.Faces
import CardInventory.Proofs.Settings.Address
