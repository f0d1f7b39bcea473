import CardInventory.Logging.Record
import CardInventory.Settings.Basic
import CardInventory.Telemetry.Exporter

/-!
# The journal of a run

What the program records while it runs, from its start to its end.
-/

namespace CardInventory.Program

open CardInventory.Logging

/-- The signals that end the service. -/
inductive Signal where
  | terminate
  | interrupt
  deriving DecidableEq, Repr

/-- The name of a signal, as an operator knows it. -/
def Signal.name : Signal → String
  | terminate => "SIGTERM"
  | interrupt => "Ctrl+C"

namespace Journal

/-- The part of the program that serves the inventory. -/
def service : String :=
  "binderctl"

/-- A record of the service. -/
def record (level : Level) (message : String) : Record :=
  ⟨level, service, message, []⟩

/-- What has become of the export of traces. -/
def telemetry (state : Telemetry.State) : Record :=
  ⟨.info, service ++ "::telemetry", state.message, []⟩

/-- What the service is started with. -/
def starting (settings : Settings) : Record :=
  ⟨.info, service, "Starting inventory service",
    [("storage", .text settings.backend.name),
      ("default_capacity", .integer settings.defaultCapacity)]⟩

/-- What is recorded before the storage is opened: where nothing outlives the program, a
warning is given. -/
def opening (state : Telemetry.State) (settings : Settings) : List Record :=
  [telemetry state, starting settings] ++
    if settings.backend.isDurable then []
    else
      [record .warn "Inventory is kept in memory; binders and decks are lost on restart"]

/-- What is recorded about a storage when it is within reach. -/
def storage : Backend → Record
  | .memory => record .info "Using in-memory storage; state is lost on shutdown"
  | .postgres _ _ => record .info "Running database migrations..."

/-- Where the service listens. -/
def listening (settings : Settings) : Record :=
  record .info <|
    s!"binderctl listening on http://{settings.bindAddress}, " ++
      s!"available at http://localhost:{settings.port}"

/-- What is recorded when a signal ends the service. -/
def stopping (signal : Signal) : Record :=
  record .info s!"Received {signal.name}, shutting down gracefully..."

/-- What is recorded after the last answer. -/
def closing : Backend → List Record
  | .memory => [record .info "Shutting down telemetry..."]
  | .postgres _ _ =>
      [record .info "Closing database connections...", record .info "Shutting down telemetry..."]

end Journal

end CardInventory.Program
