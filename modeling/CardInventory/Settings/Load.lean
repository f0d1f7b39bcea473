import CardInventory.Settings.Basic
import CardInventory.Settings.Environment
import CardInventory.Settings.Reading
import CardInventory.Width

/-!
# Loading settings

Settings are read from a document, over which the environment is laid. The
storage is named by its type: whatever else a table says about a storage in
memory is ignored. An address of a database that is given on its own selects the
database, which keeps the settings of its connections.
-/

namespace CardInventory.Settings

/-- The settings of the connections to a database. -/
def readPool : Reading PoolSettings :=
  readRecord
    [.of "max_connections" (readCount 32) fun pool value => { pool with maxConnections := value },
      .of "min_connections" (readCount 32) fun pool value => { pool with minConnections := value },
      .of "acquire_timeout_secs" (readCount 64) fun pool value =>
        { pool with acquireTimeout := value },
      .of "idle_timeout_secs" (readCount 64) fun pool value => { pool with idleTimeout := value },
      .of "max_lifetime_secs" (readCount 64) fun pool value =>
        { pool with maxLifetime := value }]
    true .standard

/-- The types of storages. -/
inductive BackendType where
  | postgres
  | memory
  deriving DecidableEq, Repr

/-- The type of a storage: its name, or its position among the types. -/
def readType : Reading BackendType
  | .integer value =>
      if value = 0 then .ok .postgres
      else if value = 1 then .ok .memory
      else if value < 0 then fail .wrongType
      else fail .outOfRange
  | value => do
      let name ← readText value
      if name = "postgres" then return .postgres
      else if name = "memory" then return .memory
      else fail .unknownVariant

/-- A database that is described by a table. -/
def readDatabaseTable (entries : List (String × Setting)) : Except Fault Backend := do
  let pool ←
    match Setting.lookup? "pool" entries with
    | some value => readPool value
    | none => .ok .standard
  match Setting.lookup? "url" entries with
  | some value => return .postgres (← readPlainText value) pool
  | none => fail .missingField

/-- A database that is described by a list. -/
def readDatabaseList : List Setting → Except Fault Backend
  | [] => fail .wrongLength
  | [url] => return .postgres (← readPlainText url) .standard
  | [url, pool] => return .postgres (← readPlainText url) (← readPool pool)
  | url :: pool :: _ => do
      let _ ← readPlainText url
      let _ ← readPool pool
      fail .wrongLength

/-- The storage. -/
def readBackend : Reading Backend
  | .table entries => do
      match Setting.lookup? "type" entries with
      | none => fail .missingField
      | some value =>
          match ← within "type" (readType value) with
          | .memory => return .memory
          | .postgres => sealed (readDatabaseTable entries)
  | .list items => do
      match items with
      | [] => fail .missingField
      | value :: rest =>
          match ← within "0" (readType value) with
          | .memory => if rest.isEmpty then return .memory else fail .wrongLength
          | .postgres => sealed (readDatabaseList rest)
  | _ => fail .wrongType

/-- An origin that is allowed. -/
def readOrigin (value : Setting) : Except Fault Api.Origin :=
  match readPlainText value with
  | .ok text =>
      match Api.Origin.parse? text with
      | some origin => .ok origin
      | none => fail .badOrigin
  | .error _ => fail .badOrigin

/-- What is said about other origins. -/
def readCors : Reading Api.Cors :=
  readRecord
    [.of "allowed_origins" (readList readOrigin) fun cors value => { cors with allowed := value },
      .of "max_age" (readOptional (readCount 64)) fun cors value => { cors with maxAge := value }]
    false ⟨[], none⟩

/-- The capacity of decks that are created without one. -/
def readDecks : Reading Int :=
  readRecord
    [.of "default_capacity" (readWhole (Width.least 32) (Width.greatest 32)) fun _ value => value]
    false standard.defaultCapacity

/-- Settings as they are written, with an address of a database that stands on its own. -/
structure Draft extends Settings where
  databaseUrl : Option String

/-- The fields of settings. -/
def draftFields : List (Field Draft) :=
  [.of "host" readText fun draft value => { draft with host := value },
    .of "port" (readCount 16) fun draft value => { draft with port := value },
    .of "database_url" (readOptional readText) fun draft value =>
      { draft with databaseUrl := value },
    .of "database" readBackend fun draft value => { draft with backend := value },
    .of "decks" readDecks fun draft value => { draft with defaultCapacity := value },
    .of "cors" readCors fun draft value => { draft with cors := value },
    .of "enable_otel_export" readFlag fun draft value => { draft with exportsTraces := value }]

/-- Settings as they are written. -/
def readDraft : Reading Draft :=
  readRecord draftFields false { standard with databaseUrl := none }

/-- The storage for settings as they are written. -/
def Draft.effectiveBackend (draft : Draft) : Backend :=
  match draft.databaseUrl with
  | some url => .postgres url (draft.backend.pool?.getD .standard)
  | none => draft.backend

/-- Why settings could not be loaded. -/
inductive LoadFailure where
  | unfit (fault : Fault)
  | flawed (flaw : Flaw)
  deriving DecidableEq, Repr

/-- The table a document stands for; where there is no document it is empty. -/
def documentTable (document : Option Json) : Except Fault Setting :=
  match document with
  | none => .ok .empty
  | some value =>
      match Setting.ofJson value with
      | .table entries => .ok (.table entries)
      | _ => fail .badDocument

/-- The settings that hold for a document and an environment, before they are checked. -/
def read (document : Option Json) (environment : Environment) : Except Fault Settings := do
  let draft ← readDraft ((← documentTable document).overlay (ofEnvironment environment))
  return { draft.toSettings with backend := draft.effectiveBackend }

/-- The settings that hold for a document and an environment. -/
def load (document : Option Json) (environment : Environment) : Except LoadFailure Settings :=
  match read document environment with
  | .error fault => .error (.unfit fault)
  | .ok settings =>
      match settings.flaw? with
      | some flaw => .error (.flawed flaw)
      | none => .ok settings

end CardInventory.Settings
