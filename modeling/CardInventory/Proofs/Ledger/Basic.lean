import CardInventory.Ledger.Basic
import CardInventory.Memory.Answer
import CardInventory.Proofs.Procedure

/-!
# Rules over tables

What the steps that all ledger rules are made of come to when the requests are
answered from tables: a check goes on or fails where it stands, and a request is
answered by the tables and leaves the tables of its answer behind.
-/

namespace CardInventory.Ledger

open Memory Storage

variable {moments : Nat → Moment} {staged : Staged}

@[simp]
theorem ends_ensure {condition : Bool} {failure : Failure} {good : Unit → Staged → Prop}
    {bad : Failure → Staged → Prop} :
    (ensure condition failure).Ends (answerNext moments) .storage staged good bad ↔
      if condition = true then good () staged else bad failure staged := by
  cases condition <;> simp [ensure]

@[simp]
theorem ends_ensurePositive {quantity : Int} {good : Unit → Staged → Prop}
    {bad : Failure → Staged → Prop} :
    (ensurePositive quantity).Ends (answerNext moments) .storage staged good bad ↔
      if 0 < quantity then good () staged
      else bad (.invalid (.quantityNotPositive quantity)) staged := by
  simp [ensurePositive]

@[simp]
theorem ends_found {α : Type} {value : Option α} {failure : Failure} {good : α → Staged → Prop}
    {bad : Failure → Staged → Prop} :
    (found value failure).Ends (answerNext moments) .storage staged good bad ↔
      match value with
      | some value => good value staged
      | none => bad failure staged := by
  cases value <;> simp [found]

/-- A request is answered by the tables of its moment. -/
theorem ends_ask (request : Request) {good : request.Reply → Staged → Prop}
    {bad : Failure → Staged → Prop} :
    (ask request).Ends (answerNext moments) .storage staged good bad ↔
      match staged.store.answer (moments staged.drawn) request with
      | (.ok reply, store) => good reply ⟨store, staged.drawn + 1⟩
      | (.error fault, store) => bad (.storage fault) ⟨store, staged.drawn + 1⟩ := by
  rw [Procedure.ends_iff]
  unfold ask Procedure.request Procedure.run answerNext
  rcases staged.store.answer (moments staged.drawn) request with ⟨_ | _, _⟩ <;> rfl

end CardInventory.Ledger
