import CardInventory.Proofs.Ledger.Basic
import CardInventory.Proofs.Ledger.Refusal
import CardInventory.Proofs.Memory.Answer

/-!
# Outcomes of credits and debits
-/

namespace CardInventory

open Memory Storage

namespace Memory.Store

variable {store : Store} {user card : Uuid} {quantity : Int}

theorem Valid.moved_credited (valid : store.Valid)
    (accepted : store.creditRefusal user card quantity = none) (time : Instant) :
    Moved store (store.hold user card (store.held user card + quantity) time)
      (fun user' card' => if user' = user ∧ card' = card then quantity else 0) fun _ => 0 := by
  obtain ⟨positive, userExists, cardExists, small⟩ := creditRefusal_eq_none_iff.mp accepted
  have nonneg := valid.held_nonneg user card
  refine (valid.moved_hold (store.held user card + quantity) userExists cardExists (by omega) small
    time).congr (fun user' card' => ?_) fun _ => rfl
  split <;> omega

theorem Valid.moved_debited (valid : store.Valid)
    (accepted : store.debitRefusal user card quantity = none) (time : Instant) :
    Moved store (store.hold user card (store.held user card - quantity) time)
      (fun user' card' => if user' = user ∧ card' = card then -quantity else 0) fun _ => 0 := by
  obtain ⟨positive, enough⟩ := debitRefusal_eq_none_iff.mp accepted
  obtain ⟨userExists, cardExists⟩ := valid.of_held_pos (Int.lt_of_lt_of_le positive enough)
  have narrow := valid.held_le user card
  refine (valid.moved_hold (store.held user card - quantity) userExists cardExists (by omega)
    (by omega) time).congr (fun user' card' => ?_) fun _ => rfl
  split <;> omega

end Memory.Store

namespace Ledger

variable {moments : Nat → Moment} {store : Store} {drawn : Nat}

theorem credit_ends (valid : store.Valid) (user card : Uuid) (quantity : Int) :
    (credit user card quantity).Ends (answerNext moments) .storage ⟨store, drawn⟩
      (fun entry after => store.creditRefusal user card quantity = none ∧
        ∃ time, entry = ⟨user, card, store.held user card + quantity, time⟩ ∧
          after.store =
            store.hold user card (store.held user card + quantity) time)
      (fun failure after => store.creditRefusal user card quantity = some failure ∧
        after.store = store) := by
  have nonneg := valid.held_nonneg user card
  simp only [credit, Procedure.ends_bind, ends_ensurePositive, ends_ensure,
    ends_ask (.userExists user), ends_ask (.cardExists card), ends_ask (.lockBinderEntry user card),
    ends_ask (.addToBinder user card quantity), Store.answer, Store.elim_holding]
  by_cases positive : 0 < quantity
  · by_cases userExists : store.users.contains user = true
    · by_cases cardExists : store.cards.contains card = true
      · have growing : 0 < store.held user card + quantity := by omega
        by_cases fits : quantityFits (store.held user card + quantity) = true
        · have small := (quantityFits_iff_le (Int.le_of_lt growing)).mp fits
          simp only [positive, userExists, cardExists, fits, if_true,
            Store.addToBinder_eq_hold userExists cardExists growing fits, Store.settle]
          refine ⟨?_, _, rfl, rfl⟩
          simp [Store.creditRefusal, userExists, cardExists, Int.not_le.mpr positive,
            Int.not_lt.mpr small]
        · have large := mt (quantityFits_iff_le (Int.le_of_lt growing)).mpr fits
          simp [Store.creditRefusal, positive, userExists, cardExists, fits,
            Int.not_le.mpr positive, Int.not_le.mp large]
      · simp [Store.creditRefusal, positive, userExists, cardExists, Int.not_le.mpr positive]
    · simp [Store.creditRefusal, positive, userExists, Int.not_le.mpr positive]
  · simp [Store.creditRefusal, positive, Int.not_lt.mp positive]

theorem debit_ends (valid : store.Valid) (user card : Uuid) (quantity : Int) :
    (debit user card quantity).Ends (answerNext moments) .storage ⟨store, drawn⟩
      (fun _ after => store.debitRefusal user card quantity = none ∧
        ∃ time, after.store =
          store.hold user card (store.held user card - quantity) time)
      (fun failure after => store.debitRefusal user card quantity = some failure ∧
        after.store = store) := by
  simp only [debit, Procedure.ends_bind, ends_ensurePositive, ends_ensure, ends_found,
    ends_ask (.lockBinderEntry user card), Store.answer, decide_eq_true_eq]
  by_cases positive : 0 < quantity
  · cases found : store.binder.get? ⟨user, card⟩ with
    | none =>
        have nothing : store.held user card = 0 := by simp [Store.held, found]
        simp [Store.debitRefusal, positive, nothing, Int.not_le.mpr positive]
    | some entry =>
        obtain ⟨holding, stored⟩ := valid.get?_binder found
        have present : store.binder.contains ⟨user, card⟩ = true :=
          Table.contains_of_get? found
        have notNone : entry.quantity ≠ 0 := by omega
        simp only [positive, if_true]
        by_cases enough : quantity ≤ entry.quantity
        · have accepted : store.debitRefusal user card quantity = none := by
            simp [Store.debitRefusal, notNone, holding, Int.not_le.mpr positive,
              Int.not_lt.mpr enough]
          rw [if_pos enough, accepted, holding]
          by_cases all : quantity = entry.quantity
          · have nothing : entry.quantity - quantity = 0 := by omega
            rw [if_pos all]
            simp only [Procedure.ends_bind, ends_ask (.deleteFromBinder user card), Store.answer,
              Procedure.ends_pure]
            exact ⟨trivial, (moments 0).time, by rw [nothing, Store.hold, if_pos rfl]⟩
          · have left : 0 < entry.quantity - quantity := by omega
            rw [if_neg all]
            simp only [Procedure.ends_bind,
              ends_ask (.setInBinder user card (entry.quantity - quantity)),
              Store.answer, Store.setInBinder_eq_hold present left, Store.settle,
              Procedure.ends_pure]
            exact ⟨trivial, _, rfl⟩
        · simp [Store.debitRefusal, notNone, holding, enough, Int.not_le.mpr positive,
            Int.not_le.mp enough]
  · simp [Store.debitRefusal, positive, Int.not_lt.mp positive]

theorem ends_quantityOf (user card : Uuid) {good : Int → Staged → Prop}
    {bad : Failure → Staged → Prop} :
    (quantityOf user card).Ends (answerNext moments) .storage ⟨store, drawn⟩ good bad ↔
      good (store.held user card) ⟨store, drawn + 1⟩ := by
  simp only [quantityOf, Procedure.ends_bind, ends_ask (.lockBinderEntry user card), Store.answer,
    Procedure.ends_pure, Store.elim_holding]

end Ledger

end CardInventory
