import CardInventory.Api.Page
import CardInventory.Json.Reader
import CardInventory.Json.Writer
import CardInventory.Memory.Service
import CardInventory.Program.Launch
import Std.Async.Signal
import Std.Http.Server
import Std.Internal.UV.System
import Std.Time.DateTime.Timestamp

/-!
# The program

The outer layer: it reads the command line, the environment and the
configuration file, carries requests to the service and its answers back, and
writes the journal. What is answered and recorded is decided elsewhere.
-/

namespace CardInventory.Outer

open Std.Async

/-! ## What comes from outside -/

/-- The point of time. -/
def now : IO Instant := do
  let nanos := (← Std.Time.Timestamp.now).toNanosecondsSinceUnixEpoch.val
  return ⟨nanos / 1000000000, (nanos % 1000000000).toNat⟩

/-- A random number of 128 bits. -/
def randomNumber : IO Nat := do
  return (← IO.getRandomBytes 16).toList.foldl (fun number byte => number * 256 + byte.toNat) 0

/-- The document in a configuration file, if there is such a file. What is no document
is passed on as a text, from which no settings can be read. -/
def readDocument (path : String) : IO (Option Json) := do
  match ← (IO.FS.readBinFile path).toBaseIO with
  | .error _ => return none
  | .ok bytes => return some ((Json.parse bytes.toList).toOption.getD (.text ""))

/-- The variables of the process. -/
def environment : IO Settings.Environment := do
  return (← Std.Internal.UV.System.osEnviron).toList

/-! ## The journal -/

/-- Write a record that a filter lets through. -/
def emit (filter : Logging.Filter) (record : Logging.Record) : IO Unit := do
  if filter.allows record then
    let output ← IO.getStdout
    output.putStrLn ((← now).text ++ " " ++ record.line)
    output.flush

/-! ## Requests -/

/-- A running service. -/
structure Service where
  settings : Settings
  depot : IO.Ref Memory.Depot

/-- The response to a request. -/
def Service.respond (service : Service) (request : Api.Request) : IO Api.Response := do
  let time ← now
  let seed ← randomNumber
  let moments := fun index => ⟨time, Uuid.ofRandom (seed + index)⟩
  service.depot.modifyGet
    (Memory.Depot.respond moments service.settings.defaultCapacity service.settings.cors request)

/-- The request that has arrived, with its body. -/
def requestOf (arrived : Std.Http.Request.Head) (body : ByteArray) : Api.Request :=
  let (path, query) := Text.cutAt '?' (toString arrived.uri).toList
  { method := toString arrived.method
    path := String.ofList path
    query := query.map String.ofList
    headers := arrived.headers.toList.map fun (name, value) => (toString name, toString value)
    body := body.toList }

/-- The bytes of a content. -/
def contentBytes : Api.Content → ByteArray
  | .json value => value.render.toUTF8
  | .text value => value.toUTF8
  | .page => Api.Page.text.toUTF8
  | .none => ByteArray.empty

/-- The response that is sent. -/
def sent (response : Api.Response) : Async (Std.Http.Response Std.Http.Body.Any) := do
  let status := (Std.Http.Status.ofCode none response.status.toUInt16).getD .ok
  let headers := response.content.mediaType.toList.map (("content-type", ·)) ++ response.headers
  let builder := headers.foldl (fun builder (name, value) =>
    (Std.Http.Response.Builder.header? builder name value).getD builder)
    (Std.Http.Response.new.status status)
  let bytes := if response.hasBody then contentBytes response.content else ByteArray.empty
  return builder.body (.ofBody (← Std.Http.Body.Full.ofByteArray bytes))

instance : Std.Http.Server.Handler Service where
  onRequest service request := do
    let body : ByteArray ← request.body.readAll
    sent (← service.respond (requestOf request.line body))

/-! ## Serving -/

/-- The address of a socket. -/
def socketAddress (listener : Program.Listener) (port : UInt16) : Std.Net.SocketAddress :=
  match listener with
  | .narrow address =>
      let part := fun unit => (address / unit).toUInt8
      .v4 ⟨.ofParts (part 0x1000000) (part 0x10000) (part 0x100) (part 1), port⟩
  | .wide groups =>
      let group := fun index => (groups.getD index 0).toUInt16
      .v6 ⟨.ofParts (group 0) (group 1) (group 2) (group 3) (group 4) (group 5) (group 6) (group 7),
        port⟩

/-- Wait for a signal that ends the service. -/
def awaitSignal : Async Program.Signal := do
  let terminate ← Signal.Waiter.mk .sigterm false
  let interrupt ← Signal.Waiter.mk .sigint false
  Selectable.one #[
    .case terminate.selector fun _ => return .terminate,
    .case interrupt.selector fun _ => return .interrupt]

/-- Write a line about a failure; the exit code of the program follows. -/
def failWith (code : UInt32) (notice : String) : IO UInt32 := do
  IO.eprintln notice
  return code

/-- Listen until a signal ends the service. -/
def listen (filter : Logging.Filter) (settings : Settings) (listener : Program.Listener) :
    Async Unit := do
  let service : Service := ⟨settings, ← IO.mkRef .empty⟩
  let server ← Std.Http.Server.serve (socketAddress listener settings.port.toUInt16) service
    { serverName := none }
  emit filter (Program.Journal.listening settings)
  let signal ← awaitSignal
  emit filter (Program.Journal.stopping signal)
  server.shutdownAndWait
  (Program.Journal.closing settings.backend).forM fun record => emit filter record

/-- Run the service. -/
def runService (environment : Settings.Environment) (settings : Settings) : IO UInt32 := do
  let filter := Logging.Filter.ofVariable (environment.lookup Program.filterVariable)
  let state := Telemetry.State.start settings.exportsTraces environment
  state.notice?.forM fun notice => IO.eprintln notice
  (Program.Journal.opening state settings).forM fun record => emit filter record
  let started := Program.start Program.noDatabases settings
  match started.outcome with
  | .error failure =>
      started.records.forM fun record => emit filter record
      failWith 1 failure.notice
  | .ok listener =>
      emit filter (Program.Journal.storage settings.backend)
      match ← (Async.block (listen filter settings listener)).toBaseIO with
      | .ok () => return 0
      | .error _ => failWith 1 Program.StartFailure.cannotListen.notice

/-- Carry out a task. -/
def runTask (environment : Settings.Environment) : Program.Task → IO UInt32
  | .help => do
      Arguments.helpLines.forM fun line => IO.println line
      return 0
  | .version => do
      IO.println Arguments.versionLine
      return 0
  | .check settings => do
      IO.println (Program.approval settings)
      return 0
  | .serve settings => runService environment settings

end CardInventory.Outer

open CardInventory in
/-- The program. -/
def main (words : List String) : IO UInt32 := do
  let environment ← Outer.environment
  let document ←
    match Arguments.parse words (environment.lookup Program.configVariable) with
    | .ok arguments => Outer.readDocument arguments.config
    | .error _ => pure none
  match Program.task words environment fun _ => document with
  | .error refusal => Outer.failWith refusal.exitCode.toUInt32 refusal.notice
  | .ok task => Outer.runTask environment task
