import CardInventory.Api.Service
import CardInventory.Database.Transaction

/-!
# The service over a database

A request that asks for an operation has it performed over a connection, in a
transaction of its own, and is answered by its outcome. For any other request
nothing is sent.
-/

namespace CardInventory.Database

/-- The response to a request, and the connection after it. -/
def Connection.respond (fresh : Nat → Uuid) (defaultCapacity : Int) (cors : Api.Cors)
    (request : Api.Request) (connection : Connection) : Api.Response × Connection :=
  match Api.serve cors request with
  | .answered response => (response, connection)
  | .pending operation finish =>
      let (outcome, connection) := connection.perform fresh defaultCapacity operation
      (finish outcome, connection)

end CardInventory.Database
