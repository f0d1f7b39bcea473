import CardInventory.Database.Connection
import CardInventory.Inventory.Rules

/-!
# Transactions

A unit of work over a connection is one transaction. It is committed only when
the operation it belongs to has succeeded and changes something; in every other
case it is rolled back. A commit that fails is followed by a rollback.
-/

namespace CardInventory.Database.Connection

open CardInventory.Inventory CardInventory.Ledger CardInventory.Storage

/-- Begin a transaction. -/
def begin (connection : Connection) : Except Fault Unit × Connection :=
  let (outcome, connection) := send (.control .begin) connection
  (outcome.map fun _ => (), connection)

/-- Roll a transaction back. -/
def rollback (connection : Connection) : Connection :=
  (send (.control .rollback) connection).2

/-- Commit a transaction. -/
def commit (connection : Connection) : Except Fault Unit × Connection :=
  match send (.control .commit) connection with
  | (.ok _, connection) => (.ok (), connection)
  | (.error fault, connection) => (.error fault, connection.rollback)

/-- Run a rule in a transaction of its own. -/
def runUnit {α : Type} (fresh : Nat → Uuid) (commits : Bool) (rule : Ledger α)
    (connection : Connection) : Except Failure α × Connection :=
  match connection.begin with
  | (.error fault, connection) => (.error (.storage fault), connection)
  | (.ok (), connection) =>
      match rule.run (answer fresh) .storage connection with
      | (.error failure, connection) => (.error failure, connection.rollback)
      | (.ok value, connection) =>
          if commits then
            match connection.commit with
            | (.ok (), connection) => (.ok value, connection)
            | (.error fault, connection) => (.error (.storage fault), connection)
          else
            (.ok value, connection.rollback)

/-- Perform an operation of the inventory. -/
def perform (fresh : Nat → Uuid) (defaultCapacity : Int) (operation : Operation)
    (connection : Connection) : Except Failure operation.Result × Connection :=
  match operation.rule defaultCapacity with
  | .error failure => (.error failure, connection)
  | .ok rule => connection.runUnit fresh operation.mutates rule

end CardInventory.Database.Connection
