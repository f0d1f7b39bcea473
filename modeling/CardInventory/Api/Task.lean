import CardInventory.Api.Http
import CardInventory.Api.MediaType
import CardInventory.Api.Problem
import CardInventory.Api.Query
import CardInventory.Inventory.Operation
import CardInventory.Json.Format

/-!
# Tasks

A request that is understood becomes a task: an operation of the inventory and
the response its result is shown as. A request that is not understood is
rejected before the inventory is asked. The path is read first, then the query
string or the body.
-/

namespace CardInventory.Api

open CardInventory.Inventory CardInventory.Json CardInventory.Ledger CardInventory.Text

/-- Why a request is rejected before anything is done. -/
inductive Rejection where
  | path
  | query
  | mediaType
  | body (fault : Json.Fault)
  deriving DecidableEq, Repr

namespace Rejection

/-- The status of a rejection. -/
def status : Rejection → Nat
  | path => 400
  | query => 400
  | mediaType => 415
  | body .unfit => 422
  | body _ => 400

/-- The text of a rejection. -/
def message : Rejection → String
  | path => "Invalid path parameter"
  | query => "Invalid query string"
  | mediaType => "The body must be sent as application/json"
  | body .malformed => "The body is not valid JSON"
  | body .truncated => "The body ends too early"
  | body .unfit => "The body does not fit this request"

/-- The response to a rejected request. -/
def response (rejection : Rejection) : Response :=
  .of rejection.status (.text rejection.message)

end Rejection

/-- An operation and the response to its result. -/
structure Task where
  operation : Operation
  respond : operation.Result → Response

/-- The response when the operation of a task has come to an end. -/
def Task.complete (task : Task) : Except Failure task.operation.Result → Response
  | .ok result => task.respond result
  | .error failure =>
      let problem := Problem.ledger failure
      .of problem.status (.json problem.body)

/-- The identifier in a part of the path. -/
def pathId (part : String) : Except Rejection Uuid :=
  match (decodeStrict (percentDecode (bytesOf part))).bind Uuid.parse? with
  | some id => .ok id
  | none => .error .path

/-- The body of a request as a format reads it. -/
def bodyAs {α : Type} (format : Format α) (request : Request) : Except Rejection α :=
  let mediaType := (request.header? "content-type").bind MediaType.parse?
  if mediaType.any MediaType.isJson then
    (format.decode request.body).mapError Rejection.body
  else
    .error .mediaType

/-- The query of a listing. -/
def queryOf (request : Request) : Except Rejection ListQuery :=
  match ListQuery.parse? (bytesOf (request.query.getD "")) with
  | some query => .ok query
  | none => .error .query

/-- A response with JSON. -/
def respondWith (status : Nat) (value : Json) : Response :=
  .of status (.json value)

/-- A page of a listing with the numbers that describe it. -/
def pageBody {α : Type} (item : α → Json) (search : Search) (page : Storage.Page α) : Json :=
  .object
    [("data", .array (page.items.map item)), ("total_count", .integer page.total),
      ("skip", .integer search.skip), ("limit", .integer search.limit)]

end CardInventory.Api
