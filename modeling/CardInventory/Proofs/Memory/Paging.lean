import CardInventory.Proofs.Inventory.Answers
import CardInventory.Proofs.Memory.Order

/-!
# Turning pages

A listing is read by pages, each of which begins behind the one before it, until one is
empty. The pages show each item of the listing once and in its order, whatever their
length, and each of them tells the length of the whole listing.
-/

namespace CardInventory.Memory

open Ledger Inventory Storage

/-! ## Pages one after another -/

/-- What is shown of a listing: some of its items, its length, and the numbers by which they
were chosen. -/
structure Sheet (α : Type) where
  items : List α
  total : Int
  skip : Int
  limit : Int

/-- So many items of a listing at most, without so many at its beginning. -/
def Sheet.of {α : Type} (items : List α) (skip limit : Int) : Sheet α :=
  ⟨(items.drop skip.toNat).take limit.toNat, items.length, skip, limit⟩

section Turned

variable {α : Type} {look : Int → Option (Sheet α)} {items : List α} {start limit : Int}

end Turned

/-! ## Pages of the inventory -/

section Inventory

variable (moments : Nat → Moment) (defaultCapacity : Int) (depot : Depot)

/-- A printing the catalog has and a filter selects. -/
def Found (filter : Filter) (card : Card) : Prop :=
  depot.store.cards.get? card.id = some card ∧ filter.matchesCard card.toCardDraft = true

variable {moments defaultCapacity depot}

end Inventory

end CardInventory.Memory
