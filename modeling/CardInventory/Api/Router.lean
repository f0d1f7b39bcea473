import CardInventory.Api.Endpoint.Binder
import CardInventory.Api.Endpoint.Cards
import CardInventory.Api.Endpoint.Decks
import CardInventory.Api.Endpoint.Movements
import CardInventory.Api.Endpoint.Users

/-!
# Routes

A request goes to the endpoint whose path it has. A path that exists but not for
the method, and a path that does not exist, are answered without a body. A HEAD
request is answered like a GET request, with the body left out.
-/

namespace CardInventory.Api

/-- All endpoints of the service. -/
def endpoints : List Endpoint :=
  [.createUser, .getUser, .listUserDecks, .listCards, .registerCard, .getCard, .listBinder,
    .showQuantity, .creditBinder, .debitBinder, .createDeck, .getDeck, .updateDeck, .deleteDeck,
    .showTotals, .exportDeck, .allocate, .deallocate, .moveZone, .transfer]

/-- The parts of a path that stand in the places of an endpoint's path. A place in the
middle of the path may be empty, the last one may not. -/
def matchPath? : List Segment → List String → Option (List String)
  | [], [] => some []
  | .fixed name :: rest, part :: parts => if name = part then matchPath? rest parts else none
  | .place _ :: rest, part :: parts =>
      if part.isEmpty && parts.isEmpty then none
      else (matchPath? rest parts).map (part :: ·)
  | _, _ => none

/-- The path below which the endpoints lie. -/
def basePath : List String :=
  ["", "api", "v1"]

/-- The parts of a path. -/
def pathParts (path : String) : List String :=
  (Text.splitAt '/' path.toList).map String.ofList

/-- What is to be done for a request. -/
inductive Reaction where
  | answer (response : Response)
  | perform (task : Task)

/-- The pages of the service besides its endpoints. -/
def pages : List (String × Content) :=
  [("/healthz", .text "OK"), ("/docs", .page)]

/-- The endpoints with the path of a request, each with the parts in its places. -/
def candidates (path : String) : List (Endpoint × List String) :=
  let parts := pathParts path
  if basePath.isPrefixOf parts then
    endpoints.filterMap fun endpoint =>
      (matchPath? endpoint.path (parts.drop basePath.length)).map (endpoint, ·)
  else
    []

/-- The method whose endpoint serves a request. -/
def servedMethod (method : String) : String :=
  if method = "HEAD" then "GET" else method

/-- What is to be done for a request, its body aside. -/
def route (request : Request) : Reaction :=
  let method := servedMethod request.method
  match pages.find? fun page => page.1 = request.path with
  | some (_, content) =>
      .answer (if method = "GET" then .of 200 content else .bare 405)
  | none =>
      let found := candidates request.path
      match found.find? fun candidate => candidate.1.method = method with
      | some (endpoint, parts) =>
          match endpoint.handle parts request with
          | .ok task => .perform task
          | .error rejection => .answer rejection.response
      | none => .answer (.bare (if found.isEmpty then 404 else 405))

/-- The response as it is sent for a method. -/
def Response.forMethod (method : String) (response : Response) : Response :=
  if method = "HEAD" then { response with hasBody := false } else response

end CardInventory.Api
