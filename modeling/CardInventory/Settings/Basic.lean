import CardInventory.Api.Cors
import CardInventory.Text.Blank

/-!
# Settings

What an operator decides about the service: where it listens, which storage it
uses, the capacity of decks that are created without one, the origins it is open
to, and whether traces are exported. Every setting has a default, with which the
service keeps its inventory in memory.
-/

namespace CardInventory

/-- The settings of the connections to a database; times are in seconds. -/
structure PoolSettings where
  maxConnections : Nat
  minConnections : Nat
  acquireTimeout : Nat
  idleTimeout : Nat
  maxLifetime : Nat
  deriving DecidableEq, Repr

namespace PoolSettings

/-- The settings that hold where nothing else is said. -/
def standard : PoolSettings :=
  ⟨10, 0, 30, 600, 1800⟩

instance : Inhabited PoolSettings :=
  ⟨standard⟩

/-- A time span; zero stands for none. -/
def span (seconds : Nat) : Option Nat :=
  if 0 < seconds then some seconds else none

end PoolSettings

/-- The storage of the inventory. -/
inductive Backend where
  | memory
  | postgres (url : String) (pool : PoolSettings)
  deriving DecidableEq, Repr, Inhabited

namespace Backend

/-- The name of a storage. -/
def name : Backend → String
  | memory => "memory"
  | postgres _ _ => "postgres"

/-- The address of a database. -/
def url? : Backend → Option String
  | memory => none
  | postgres url _ => some url

/-- The settings of the connections to a database. -/
def pool? : Backend → Option PoolSettings
  | memory => none
  | postgres _ pool => some pool

/-- Whether the inventory is still there after a restart. -/
def isDurable : Backend → Bool
  | memory => false
  | postgres _ _ => true

end Backend

/-- The settings of the service. -/
structure Settings where
  host : String
  port : Nat
  backend : Backend
  defaultCapacity : Int
  cors : Api.Cors
  exportsTraces : Bool
  deriving DecidableEq, Repr

namespace Settings

/-- The settings that hold where nothing else is said. -/
def standard : Settings :=
  ⟨"0.0.0.0", 3001, .memory, 60, ⟨[], none⟩, false⟩

instance : Inhabited Settings :=
  ⟨standard⟩

/-- The address the service listens at. -/
def bindAddress (settings : Settings) : String :=
  s!"{settings.host}:{settings.port}"

/-- Why settings cannot be used, although each is of the right type. -/
inductive Flaw where
  | capacityTooLow (capacity : Int)
  | blankUrl
  | noConnections
  | noPort
  deriving DecidableEq, Repr

/-- The text of a flaw. -/
def Flaw.message (flaw : Flaw) : String :=
  "Failed to Config validation: " ++
    match flaw with
    | capacityTooLow capacity => s!"decks.default_capacity must be at least 1, got {capacity}"
    | blankUrl => "database.url is empty. Set DATABASE_URL or database.url in the config file."
    | noConnections => "database.pool.max_connections must be at least 1"
    | noPort => "port must not be 0"

/-- The flaw of a storage. -/
def backendFlaw? : Backend → Option Flaw
  | .memory => none
  | .postgres url pool =>
      if Text.isBlankText url then some .blankUrl
      else if pool.maxConnections = 0 then some .noConnections
      else none

/-- The first flaw of settings. -/
def flaw? (settings : Settings) : Option Flaw :=
  if settings.defaultCapacity < 1 then some (.capacityTooLow settings.defaultCapacity)
  else
    match backendFlaw? settings.backend with
    | some flaw => some flaw
    | none => if settings.port = 0 then some .noPort else none

end Settings

end CardInventory
