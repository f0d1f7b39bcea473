import CardInventory.CommandLine
import CardInventory.Database.Address
import CardInventory.Database.Migration
import CardInventory.Logging.Filter
import CardInventory.Program.Journal
import CardInventory.Program.Listener
import CardInventory.Settings.Load

/-!
# Launching the program

The command line, the environment and a configuration document decide what the
program does. A service opens its storage, brings the schema of a database up to
date, and listens until a signal ends it. Each run leaves behind an exit code,
what it has printed and what it has recorded.
-/

namespace CardInventory.Program

open CardInventory.Database CardInventory.Logging CardInventory.Settings

/-! ## What is asked for -/

/-- What the program is to do. -/
inductive Task where
  | help
  | version
  | check (settings : Settings)
  | serve (settings : Settings)

/-- Why the program does nothing. -/
inductive Refusal where
  | arguments (refusal : Arguments.Refusal)
  | settings (failure : LoadFailure)
  deriving DecidableEq, Repr

namespace Refusal

/-- The exit code after a refusal. -/
def exitCode : Refusal → Nat
  | arguments _ => 2
  | settings _ => 1

/-- The text of a refused command line. -/
def argumentMessage : Arguments.Refusal → String
  | .unknownArgument => "unexpected argument found"
  | .missingValue => "a value is required for '--config <CONFIG>' but none was supplied"
  | .unexpectedValue => "unexpected value for a flag found; no more were expected"
  | .repeated => "an argument cannot be used multiple times"

/-- The text of settings that cannot be loaded. -/
def settingsMessage : LoadFailure → String
  | .flawed flaw => flaw.message
  | .unfit fault =>
      if fault.path.isEmpty then "The configuration cannot be read"
      else "The configuration cannot be read at " ++ ".".intercalate fault.path

/-- What is said about a refusal. -/
def notice : Refusal → String
  | arguments refusal => "error: " ++ argumentMessage refusal
  | settings failure => "Error: " ++ settingsMessage failure

end Refusal

/-- The variable that names the configuration file. -/
def configVariable : String :=
  "BINDERCTL_CONFIG"

/-- The variable that sets the log filter. -/
def filterVariable : String :=
  "RUST_LOG"

/-- The task that a command line and an environment set; `document` gives the document in
a configuration file, if there is such a file. -/
def task (words : List String) (environment : Environment) (document : String → Option Json) :
    Except Refusal Task :=
  match Arguments.parse words (environment.lookup configVariable) with
  | .error .help => .ok .help
  | .error .version => .ok .version
  | .error (.refused refusal) => .error (.arguments refusal)
  | .ok arguments =>
      match Settings.load (document arguments.config) environment with
      | .error failure => .error (.settings failure)
      | .ok settings => .ok (if arguments.validate then .check settings else .serve settings)

/-- What is said about settings that have been checked. -/
def approval (settings : Settings) : String :=
  s!"Configuration is valid: {settings.backend.name} storage, " ++
    s!"default deck capacity {settings.defaultCapacity}."

/-! ## Starting the service -/

/-- Why the service does not start. -/
inductive StartFailure where
  /-- The address of the database cannot be read. -/
  | badAddress
  /-- The database is out of reach. -/
  | unreachable
  /-- The schema of the database cannot be brought up to date. -/
  | migration (failure : Migration.Failure)
  /-- The service cannot listen where it should. -/
  | cannotListen

namespace StartFailure

/-- The text of a migration that cannot be applied. -/
def migrationMessage : Migration.Failure → String
  | .dirty version => s!"migration {version} is partially applied; fix and remove its record"
  | .unknown version => s!"migration {version} was previously applied but is missing"
  | .changed version => s!"migration {version} was previously applied but has been modified"
  | .refused _ => "the database refuses a migration"

/-- What is said about a service that does not start. -/
def notice (failure : StartFailure) : String :=
  "Error: " ++
    match failure with
    | badAddress => "the address of the database cannot be read"
    | unreachable => "the database cannot be reached"
    | migration failure => migrationMessage failure
    | cannotListen => "the service cannot listen at its address"

end StartFailure

/-- What databases are within reach of the program. -/
abbrev Network := Database.Address → Option Migration.Peer

/-- A network without any database. -/
def noDatabases : Network :=
  fun _ => none

/-- Find the database of a storage; there is none behind a storage in memory. -/
def reach (network : Network) : Backend → Except StartFailure (Option Migration.Peer)
  | .memory => .ok none
  | .postgres url _ =>
      match Database.Address.parse? url with
      | none => .error .badAddress
      | some address =>
          match network address with
          | none => .error .unreachable
          | some peer => .ok (some peer)

/-- Bring the storage up to date once it is within reach. -/
def prepare : Option Migration.Peer → Except StartFailure Unit × List Migration.Step
  | none => (.ok (), [])
  | some peer =>
      match Migration.upgrade Migration.all peer with
      | (.ok (), steps) => (.ok (), steps)
      | (.error failure, steps) => (.error (.migration failure), steps)

/-- How far the start of a service has come: where it listens, unless something went
wrong, what was sent to its database, and what was recorded. -/
structure Start where
  outcome : Except StartFailure Listener
  steps : List Migration.Step
  records : List Record

/-- Start a service. -/
def start (network : Network) (settings : Settings) : Start :=
  match reach network settings.backend with
  | .error failure => ⟨.error failure, [], []⟩
  | .ok peer? =>
      let storage := Journal.storage settings.backend
      match prepare peer? with
      | (.error failure, steps) => ⟨.error failure, steps, [storage]⟩
      | (.ok (), steps) =>
          match Listener.ofHost? settings.host with
          | none => ⟨.error .cannotListen, steps, [storage]⟩
          | some listener => ⟨.ok listener, steps, [storage, Journal.listening settings]⟩

/-! ## Runs -/

/-- What a run of the program leaves behind. -/
structure Report where
  exitCode : Nat
  output : List String
  records : List Record
  notices : List String
  deriving DecidableEq, Repr

/-- A run of a service, which a signal ends if it has started. -/
def runService (environment : Environment) (network : Network) (signal : Signal)
    (settings : Settings) : Report :=
  let state := Telemetry.State.start settings.exportsTraces environment
  let filter := Filter.ofVariable (environment.lookup filterVariable)
  let started := start network settings
  let records := Journal.opening state settings ++ started.records
  match started.outcome with
  | .error failure =>
      ⟨1, [], records.filter filter.allows, state.notice?.toList ++ [failure.notice]⟩
  | .ok _ =>
      ⟨0, [], (records ++ Journal.stopping signal :: Journal.closing settings.backend).filter
        filter.allows, state.notice?.toList⟩

/-- A run of the program. -/
def run (words : List String) (environment : Environment) (document : String → Option Json)
    (network : Network) (signal : Signal) : Report :=
  match task words environment document with
  | .error refusal => ⟨refusal.exitCode, [], [], [refusal.notice]⟩
  | .ok .help => ⟨0, Arguments.helpLines, [], []⟩
  | .ok .version => ⟨0, [Arguments.versionLine], [], []⟩
  | .ok (.check settings) => ⟨0, [approval settings], [], []⟩
  | .ok (.serve settings) => runService environment network signal settings

end CardInventory.Program
