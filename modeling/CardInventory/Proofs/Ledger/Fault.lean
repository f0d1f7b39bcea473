import CardInventory.Proofs.Ledger.Refusal

/-!
# Refusals that are not storage faults

The causes for which copies are not moved are found by the rules themselves. None of
them is a fault of the storage.
-/

namespace CardInventory

open Memory

namespace Ledger

/-- Whether an operation is refused by a fault of the storage. -/
def Failure.ofStorage : Failure → Bool
  | .storage _ => true
  | _ => false

theorem checkCapacity_not_ofStorage {limit : Option Int} {current attempted : Int}
    {failure : Failure} (refused : checkCapacity limit current attempted = .error failure) :
    failure.ofStorage = false := by
  obtain ⟨bound, -, -, rfl⟩ := checkCapacity_eq_error_iff.mp refused
  rfl

end Ledger

namespace Memory.Store

open Ledger

variable {store : Store} {user deck source destination card : Uuid} {quantity : Int}

theorem creditRefusal_not_ofStorage :
    Causes (fun failure => failure.ofStorage = false) (store.creditRefusal user card quantity) :=
  .check (fun _ => rfl) fun _ => .check (fun _ => rfl) fun _ => .check (fun _ => rfl) fun _ =>
    .check (fun _ => rfl) fun _ => .none

theorem debitRefusal_not_ofStorage :
    Causes (fun failure => failure.ofStorage = false) (store.debitRefusal user card quantity) :=
  .check (fun _ => rfl) fun _ => .check (fun _ => rfl) fun _ => .check (fun _ => rfl) fun _ =>
    .none

theorem additionRefusal_not_ofStorage {zone : Zone} :
    Causes (fun failure => failure.ofStorage = false)
      (store.additionRefusal deck card quantity zone) :=
  .check (fun _ => rfl) fun _ => .check (fun _ => rfl) fun _ => .check (fun _ => rfl) fun _ =>
    .check (fun _ => rfl) fun _ => .none

theorem removalRefusal_not_ofStorage {zone : Option Zone} :
    Causes (fun failure => failure.ofStorage = false)
      (store.removalRefusal deck card quantity zone) := by
  refine .check (fun _ => rfl) fun _ => ?_
  split
  · exact .some rfl
  · exact .check (fun _ => rfl) fun _ => .none

theorem allocationRefusal_not_ofStorage {zone : Zone} :
    Causes (fun failure => failure.ofStorage = false)
      (store.allocationRefusal deck card quantity zone) := by
  refine .check (fun _ => rfl) fun _ => ?_
  split
  · exact .some rfl
  · refine .check (fun _ => rfl) fun _ => ?_
    split
    · rename_i failure refused
      exact .some (checkCapacity_not_ofStorage refused)
    · exact .check (fun _ => rfl) fun _ => additionRefusal_not_ofStorage

theorem deallocationRefusal_not_ofStorage {zone : Option Zone} :
    Causes (fun failure => failure.ofStorage = false)
      (store.deallocationRefusal deck card quantity zone) := by
  refine .check (fun _ => rfl) fun _ => ?_
  split
  · exact .some rfl
  · exact .or removalRefusal_not_ofStorage fun _ => creditRefusal_not_ofStorage

theorem transferRefusal_not_ofStorage {zone : Option Zone} :
    Causes (fun failure => failure.ofStorage = false)
      (store.transferRefusal source destination card quantity zone) := by
  refine .check (fun _ => rfl) fun _ => .check (fun _ => rfl) fun _ => ?_
  split
  · exact .some rfl
  · exact .some rfl
  · refine .check (fun _ => rfl) fun _ => ?_
    split
    · rename_i failure refused
      exact .some (checkCapacity_not_ofStorage refused)
    · exact .or deallocationRefusal_not_ofStorage fun _ => additionRefusal_not_ofStorage

theorem zoneMoveRefusal_not_ofStorage {zone target : Zone} :
    Causes (fun failure => failure.ofStorage = false)
      (store.zoneMoveRefusal deck card quantity zone target) :=
  .check (fun _ => rfl) fun _ => .check (fun _ => rfl) fun _ => .check (fun _ => rfl) fun _ =>
    .or removalRefusal_not_ofStorage fun _ => additionRefusal_not_ofStorage

end Memory.Store

end CardInventory
