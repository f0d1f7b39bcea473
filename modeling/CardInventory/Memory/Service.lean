import CardInventory.Api.Service
import CardInventory.Memory.Depot

/-!
# The service over a depot

A request that asks for an operation has it performed on the depot, and is answered
by its outcome. Any other request leaves the depot alone.
-/

namespace CardInventory.Memory

/-- The response to a request, and the depot after it. -/
def Depot.respond (moments : Nat → Moment) (defaultCapacity : Int) (cors : Api.Cors)
    (request : Api.Request) (depot : Depot) : Api.Response × Depot :=
  match Api.serve cors request with
  | .answered response => (response, depot)
  | .pending operation finish =>
      let (outcome, depot) := depot.perform moments defaultCapacity operation
      (finish outcome, depot)

end CardInventory.Memory
