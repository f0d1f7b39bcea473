import CardInventory.Inventory.Rules
import CardInventory.Memory.Answer

/-!
# Units of work in memory

The depot keeps the committed tables. A unit of work starts from a copy of them,
which takes their place when the unit is committed. Units run one at a time.
-/

namespace CardInventory.Memory

open CardInventory.Inventory CardInventory.Ledger CardInventory.Storage

/-- The committed tables, the number of moments that have been drawn, and the fault
that keeps the next unit of work from beginning, if any. -/
structure Depot where
  store : Store
  drawn : Nat
  refusal : Option Fault

namespace Depot

/-- A depot without any record. -/
def empty : Depot :=
  ⟨.empty, 0, none⟩

/-- Begin a unit of work. A pending refusal is used up. -/
def begin (depot : Depot) : Except Fault Staged × Depot :=
  match depot.refusal with
  | some fault => (.error fault, { depot with refusal := none })
  | none => (.ok ⟨depot.store, depot.drawn⟩, depot)

/-- Make the work of a unit the committed state. -/
def commit (depot : Depot) (staged : Staged) : Depot :=
  { depot with store := staged.store, drawn := staged.drawn }

/-- Forget the work of a unit. -/
def drop (depot : Depot) (staged : Staged) : Depot :=
  { depot with drawn := staged.drawn }

/-- Run a rule in a unit of work of its own. -/
def runUnit {α : Type} (moments : Nat → Moment) (commits : Bool) (rule : Ledger α)
    (depot : Depot) : Except Failure α × Depot :=
  match depot.begin with
  | (.error fault, depot) => (.error (.storage fault), depot)
  | (.ok staged, depot) =>
      match rule.run (answerNext moments) .storage staged with
      | (.ok value, staged) =>
          (.ok value, if commits then depot.commit staged else depot.drop staged)
      | (.error failure, staged) => (.error failure, depot.drop staged)

/-- Perform an operation of the inventory. -/
def perform (moments : Nat → Moment) (defaultCapacity : Int) (operation : Operation)
    (depot : Depot) : Except Failure operation.Result × Depot :=
  match operation.rule defaultCapacity with
  | .error failure => (.error failure, depot)
  | .ok rule => depot.runUnit moments operation.mutates rule

end Depot

end CardInventory.Memory
