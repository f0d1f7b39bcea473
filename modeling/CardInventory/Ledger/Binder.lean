import CardInventory.Ledger.Basic

/-!
# Binder rules

Copies are credited to a binder and debited from it. A holding that reaches zero
has its entry deleted, so an entry that exists always holds copies.
-/

namespace CardInventory.Ledger

open Storage

/-- Add copies of a card to a user's binder. -/
def credit (user card : Uuid) (quantity : Int) : Ledger BinderEntry := do
  ensurePositive quantity
  ensure (← ask (.userExists user)) (.notFound .user user.text)
  ensure (← ask (.cardExists card)) (.notFound .card card.text)
  let entry ← ask (.lockBinderEntry user card)
  let current := entry.elim 0 BinderEntry.quantity
  ensure (quantityFits (current + quantity)) (.invalid (.holdingCannotGrow current quantity))
  ask (.addToBinder user card quantity)

/-- Remove copies of a card from a user's binder; the entry that is left, if any. -/
def debit (user card : Uuid) (quantity : Int) : Ledger (Option BinderEntry) := do
  ensurePositive quantity
  let entry ← found (← ask (.lockBinderEntry user card))
    (.notFound .binderEntry s!"{user}/{card}")
  ensure (quantity ≤ entry.quantity) (.insufficient entry.quantity quantity)
  if quantity = entry.quantity then
    let _ ← ask (.deleteFromBinder user card)
    return none
  else
    return some (← ask (.setInBinder user card (entry.quantity - quantity)))

/-- The number of copies of a card in a user's binder. -/
def quantityOf (user card : Uuid) : Ledger Int := do
  let entry ← ask (.lockBinderEntry user card)
  return entry.elim 0 BinderEntry.quantity

end CardInventory.Ledger
