import CardInventory.Proofs.Inventory.Reachable

/-!
# Conservation of copies

Copies come into the inventory by credits and leave it by debits alone. Every other
operation only moves them between the binder of a user and the decks of the same
user, so that what each user owns of each card stays as it was.
-/

namespace CardInventory.Inventory

open Memory Storage Ledger

/-- After a success users own what they have owned and what they have gained, and after a
failure what they have owned. -/
def Conserves {α : Type} (gained : Uuid → Uuid → Int) (depot : Depot) :
    Except Failure α × Depot → Prop
  | (.ok _, after) => ∀ user card,
      after.store.owned user card = depot.store.owned user card + gained user card
  | (.error _, after) => ∀ user card,
      after.store.owned user card = depot.store.owned user card

variable {moments : Nat → Moment} {defaultCapacity : Int} {depot : Depot}

/-- At a reachable depot every operation conserves what users own up to its gain, and so do
operations that are composed in one unit of work. -/
theorem reachable_conserves (reachable : Reachable moments defaultCapacity depot) :
    (∀ operation : Operation,
      NewIds moments (operation.task defaultCapacity) ⟨depot.store, depot.drawn⟩ →
        Conserves operation.gain depot (depot.perform moments defaultCapacity operation)) ∧
      ∀ operations : List Operation,
        NewIds moments (inTurn defaultCapacity operations) ⟨depot.store, depot.drawn⟩ →
          Conserves (totalGain operations) depot
            (depot.runUnit moments true (inTurn defaultCapacity operations)) := by
  constructor
  · intro operation newIds
    rcases outcome : depot.perform moments defaultCapacity operation with ⟨failure | result, after⟩
    · obtain ⟨same, -⟩ := Depot.perform_eq_error outcome
      exact fun user card => by rw [same]
    · exact (perform_effect reachable.sound newIds outcome).owned
  · intro operations newIds
    rcases outcome : depot.runUnit moments true (inTurn defaultCapacity operations) with
      ⟨failure | _, after⟩
    · obtain ⟨same, -⟩ := Depot.runUnit_eq_error outcome
      exact fun user card => by rw [same]
    · exact (compose_effect reachable.sound newIds outcome).owned

/-- Two of a user's five copies go into a deck, or three more come in a unit of two credits. -/
theorem five_copies_conserved :
    let moments : Nat → Moment := fun n => ⟨⟨n, 0⟩, .ofNat n⟩
    let user : Uuid := .ofNat 0
    let card : Uuid := .ofNat 7
    let deck : Uuid := .ofNat 3
    let operations : List Operation :=
      [.createUser ⟨"ada", none⟩, .registerCard ⟨card, "Forest", none, none, none, none, [default]⟩,
        .createDeck ⟨user, "Elves", "modern", some 3, false, none⟩, .creditBinder user card 5]
    let depot := (Depot.empty.runUnit moments true (inTurn 60 operations)).2
    let allocation : Operation := .allocate deck card 2 .main
    let credits : List Operation := [.creditBinder user card 1, .creditBinder user card 2]
    depot.store.owned user card = 5 ∧
      Conserves allocation.gain depot (depot.perform moments 60 allocation) ∧
      Conserves (totalGain credits) depot (depot.runUnit moments true (inTurn 60 credits)) := by
  intro moments user card deck operations depot allocation credits
  have reachable : Reachable moments 60 depot :=
    .compose .empty true operations (by decide +kernel)
  have owned : depot.store.owned user card = 5 := by decide +kernel
  have allocated : NewIds moments (allocation.task 60) ⟨depot.store, depot.drawn⟩ := by
    decide +kernel
  have credited : NewIds moments (inTurn 60 credits) ⟨depot.store, depot.drawn⟩ := by
    decide +kernel
  clear_value depot
  obtain ⟨performed, composed⟩ := reachable_conserves reachable
  exact ⟨owned, performed allocation allocated, composed credits credited⟩

end CardInventory.Inventory
