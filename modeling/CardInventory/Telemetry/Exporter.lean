import CardInventory.Settings.Environment
import CardInventory.Telemetry.Endpoint
import CardInventory.Text.Blank

/-!
# The exporter of traces

Traces are exported only where the settings ask for it. The exporter itself is
set up by variables of the environment: the name of the service, the endpoint,
the protocol and the headers that are sent along. A service whose exporter
cannot be set up runs without it.
-/

namespace CardInventory.Telemetry

open CardInventory.Text CardInventory.Settings

/-- How traces are written for the endpoint. -/
inductive Protocol where
  | binary
  | json
  deriving DecidableEq, Repr

namespace Protocol

/-- The name of a protocol. -/
def name : Protocol → String
  | binary => "http/protobuf"
  | json => "http/json"

/-- The protocol a variable asks for; every other value asks for the binary one. -/
def ofVariable (value : Option String) : Protocol :=
  if value = some json.name then json else binary

end Protocol

/-! ## Headers -/

/-- Put a space in place of each of its percent-encoded forms. -/
def decodeSpaces : List Char → List Char
  | '%' :: '2' :: '0' :: rest => ' ' :: decodeSpaces rest
  | c :: rest => c :: decodeSpaces rest
  | [] => []

/-- The name and the value of a header, without blank ends. A part without an equals
sign is no header, nor is one without a name. -/
def header? (part : List Char) : Option (String × String) :=
  match cutAt '=' part with
  | (name, some value) =>
      let name := trimChars name
      if name.isEmpty then none
      else some (String.ofList name, String.ofList (trimChars value))
  | (_, none) => none

/-- Set a header; an earlier value under the name is lost. -/
def setHeader (headers : List (String × String)) (header : String × String) :
    List (String × String) :=
  headers.filter (·.1 ≠ header.1) ++ [header]

/-- The headers in a list between commas. -/
def parseHeaders (text : String) : List (String × String) :=
  ((splitAt ',' (decodeSpaces text.toList)).filterMap header?).foldl setHeader []

/-! ## Exporters -/

/-- What an exporter is set up with. -/
structure Exporter where
  service : String
  endpoint : String
  protocol : Protocol
  headers : List (String × String)
  compressed : Bool
  deriving DecidableEq, Repr

namespace Exporter

/-- The variables that ask for compression. -/
def compressionVariables : List String :=
  ["OTEL_EXPORTER_OTLP_COMPRESSION", "OTEL_EXPORTER_OTLP_TRACES_COMPRESSION"]

/-- The exporter an environment sets up. -/
def ofEnvironment (environment : Environment) : Exporter where
  service := (environment.lookup "OTEL_SERVICE_NAME").getD "binderctl"
  endpoint := (environment.lookup "OTEL_EXPORTER_OTLP_ENDPOINT").getD "http://localhost:4318"
  protocol := .ofVariable (environment.lookup "OTEL_EXPORTER_OTLP_PROTOCOL")
  headers := ((environment.lookup "OTEL_EXPORTER_OTLP_HEADERS").map parseHeaders).getD []
  compressed := compressionVariables.any fun name => (environment.lookup name).isSome

/-- What is said about an exporter before it is set up. -/
def notice (exporter : Exporter) : String :=
  s!"[OTLP] service={exporter.service} endpoint={exporter.endpoint} " ++
    s!"headers={exporter.headers.length}"

/-- Why an exporter cannot be set up. -/
inductive Failure where
  | badEndpoint
  | compression
  deriving DecidableEq, Repr

/-- The text of a failure. -/
def Failure.message : Failure → String
  | badEndpoint => "the endpoint cannot be read"
  | compression => "compression is not supported"

/-- Why an exporter cannot be set up, if it cannot. An empty endpoint stands for the
standard one. -/
def failure? (exporter : Exporter) : Option Failure :=
  if !exporter.endpoint.isEmpty && !Endpoint.isEndpoint exporter.endpoint then some .badEndpoint
  else if exporter.compressed then some .compression
  else none

end Exporter

/-- What has become of the exporter when the service starts. -/
inductive State where
  | disabled
  | exporting (exporter : Exporter)
  | failed (exporter : Exporter) (failure : Exporter.Failure)
  deriving DecidableEq, Repr

namespace State

/-- The state for settings and an environment. -/
def start (exports : Bool) (environment : Environment) : State :=
  if exports then
    let exporter := Exporter.ofEnvironment environment
    match exporter.failure? with
    | none => exporting exporter
    | some failure => failed exporter failure
  else disabled

/-- What is said before the exporter is set up. -/
def notice? : State → Option String
  | disabled => none
  | exporting exporter => some exporter.notice
  | failed exporter _ => some exporter.notice

/-- What is recorded about a state. -/
def message : State → String
  | disabled => "Telemetry initialized (OTLP export disabled)"
  | exporting _ => "Telemetry initialized with OTLP export enabled"
  | failed _ failure => "Telemetry initialized without OTLP export: " ++ failure.message

end State

end CardInventory.Telemetry
