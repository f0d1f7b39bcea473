import CardInventory.Api.Cors
import CardInventory.Api.Router

/-!
# The service

What the service does with a request, from the origin it comes from to the
response that is sent. What is left open is how an operation is performed: the
service only says which one, and how its outcome is shown.
-/

namespace CardInventory.Api

open CardInventory.Inventory CardInventory.Ledger

/-- How a request is served. -/
inductive Serving where
  | answered (response : Response)
  | pending (operation : Operation) (finish : Except Failure operation.Result → Response)

/-- Serve a request. -/
def serve (cors : Cors) (request : Request) : Serving :=
  let finish := fun response : Response =>
    cors.decorate request (response.forMethod request.method)
  if cors.intercepts request then
    .answered (cors.preflight request)
  else
    match route request with
    | .answer response => .answered (finish response)
    | .perform task => .pending task.operation fun outcome => finish (task.complete outcome)

end CardInventory.Api
