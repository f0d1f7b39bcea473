import CardInventory.Proofs.Inventory.Conflict
import CardInventory.Proofs.Inventory.Reachable

/-!
# Depots whatever is drawn

The depots that come about when operations and units of any requests are run one
after another, whatever identifiers are drawn on the way. Their tables are valid, so
that an operation fails in storage just where it is in conflict with what they hold.
-/

namespace CardInventory

open Memory Storage Ledger Inventory

namespace Memory.Depot

variable {moments : Nat → Moment} {defaultCapacity : Int} {depot : Depot}

theorem runUnit_refusal {α : Type} (free : depot.refusal = none) (commits : Bool)
    (rule : Ledger α) : (depot.runUnit moments commits rule).2.refusal = none := by
  rcases depot with ⟨store, drawn, _ | fault⟩
  · simp only [runUnit, begin]
    split
    · cases commits <;> rfl
    · rfl
  · cases free

theorem perform_refusal (free : depot.refusal = none) (operation : Operation) :
    (depot.perform moments defaultCapacity operation).2.refusal = none := by
  unfold perform
  cases operation.rule defaultCapacity with
  | error failure => exact free
  | ok rule => exact runUnit_refusal free operation.mutates rule

end Memory.Depot

namespace Inventory

variable {moments : Nat → Moment} {defaultCapacity : Int} {depot : Depot}

/-- The depots that operations and units of requests with numbers of 32 bits lead to, the
units committed or dropped. -/
inductive Attainable (moments : Nat → Moment) (defaultCapacity : Int) : Depot → Prop where
  | empty : Attainable moments defaultCapacity .empty
  | perform {depot : Depot} (before : Attainable moments defaultCapacity depot)
      (operation : Operation) :
      Attainable moments defaultCapacity (depot.perform moments defaultCapacity operation).2
  | unit {depot : Depot} (before : Attainable moments defaultCapacity depot) (commits : Bool)
      {α : Type} (rule : Ledger α)
      (narrow : rule.Meets (answerNext moments) (fun request _ => request.narrow = true)
        ⟨depot.store, depot.drawn⟩) :
      Attainable moments defaultCapacity (depot.runUnit moments commits rule).2

theorem Attainable.refusal (attainable : Attainable moments defaultCapacity depot) :
    depot.refusal = none := by
  induction attainable with
  | empty => rfl
  | perform _ operation ih => exact Depot.perform_refusal ih operation
  | unit _ commits rule _ ih => exact Depot.runUnit_refusal ih commits rule

/-- An operation leaves the committed tables valid. -/
theorem perform_valid (valid : depot.store.Valid) (operation : Operation) :
    (depot.perform moments defaultCapacity operation).2.store.Valid := by
  rcases outcome : depot.perform moments defaultCapacity operation with ⟨failure | result, after⟩
  · exact (Depot.perform_eq_error outcome).1 ▸ valid
  · obtain ⟨staged, ran, same⟩ := Depot.perform_eq_ok outcome
    have kept := (task_valid valid defaultCapacity operation).ok ran
    rw [same]
    split
    · exact kept
    · exact valid

/-- The tables of an attainable depot are valid. -/
theorem Attainable.valid (attainable : Attainable moments defaultCapacity depot) :
    depot.store.Valid := by
  induction attainable with
  | empty => exact Store.valid_empty
  | perform _ operation ih => exact perform_valid ih operation
  | @unit depot _ commits α rule narrow ih =>
      rcases outcome : depot.runUnit moments commits rule with ⟨failure | result, after⟩
      · exact (Depot.runUnit_eq_error outcome).1 ▸ ih
      · obtain ⟨staged, ran, same⟩ := Depot.runUnit_eq_ok outcome
        have staysValid := narrow.ends (fun staged => staged.store.Valid) .storage
          (fun _ _ fits valid => Store.answer_valid valid fits) ih
        rw [same]
        split
        · exact staysValid.ok ran
        · exact ih

end Inventory

end CardInventory
