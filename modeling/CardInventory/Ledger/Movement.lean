import CardInventory.Ledger.Binder
import CardInventory.Ledger.Deck

/-!
# Movements of copies

Copies move between a binder and the decks of its owner, between two decks, and
between the zones of one deck. Every movement takes copies from one place and
puts as many into another, and a deck that is deleted returns all its copies.
Nothing is undone here when a later step fails: the unit of work is then dropped.
-/

namespace CardInventory.Ledger

open Storage

/-- What a transfer has left in the source deck and made of the destination. -/
structure TransferOutcome where
  source : Removal
  destination : DeckEntry
  deriving DecidableEq

/-- What a move between zones has left in the one zone and made of the other. -/
structure ZoneMove where
  source : Removal
  target : DeckEntry
  deriving DecidableEq

/-- A deleted deck and the copies of each card that went back to the binder. -/
structure ReleasedDeck where
  deck : Deck
  returned : List (Uuid × Int)
  deriving DecidableEq

/-- The number of copies that went back to the binder. -/
def ReleasedDeck.totalReturned (released : ReleasedDeck) : Int :=
  totalOf (released.returned.map Prod.snd)

/-- Move copies from the owner's binder into a deck. -/
def allocate (deck card : Uuid) (quantity : Int) (zone : Zone) : Ledger DeckEntry := do
  ensurePositive quantity
  let row ← lockDeck deck
  ensure (← ask (.cardExists card)) (.notFound .card card.text)
  ensureCapacity row quantity
  let held ← quantityOf row.owner card
  ensure (quantity ≤ held) (.insufficient held quantity)
  let _ ← debit row.owner card quantity
  addToZone deck card quantity zone

/-- Move copies from a deck back into the owner's binder. -/
def deallocate (deck card : Uuid) (quantity : Int) (zone : Option Zone) : Ledger Removal := do
  ensurePositive quantity
  let row ← lockDeck deck
  let removal ← removeFromZone deck card quantity zone
  let _ ← credit row.owner card quantity
  return removal

/-- Move copies from a deck into the main zone of another deck of the same owner.
Both decks are locked before either is touched. -/
def transfer (source destination card : Uuid) (quantity : Int) (zone : Option Zone) :
    Ledger TransferOutcome := do
  ensurePositive quantity
  ensure (source ≠ destination) (.invalid .sameDeck)
  let rows ← ask (.lockDecks [source, destination])
  let sourceRow ← found (rowOf? Deck.id source rows) (.notFound .deck source.text)
  let destinationRow ← found (rowOf? Deck.id destination rows) (.notFound .deck destination.text)
  ensure (sourceRow.owner = destinationRow.owner) (.invalid .differentOwners)
  ensureCapacity destinationRow quantity
  let removal ← deallocate source card quantity zone
  let entry ← allocate destination card quantity .main
  return ⟨removal, entry⟩

/-- Move copies from one zone of a deck into the other. -/
def moveZone (deck card : Uuid) (quantity : Int) (source target : Zone) : Ledger ZoneMove := do
  ensurePositive quantity
  ensure (source ≠ target) (.invalid (.alreadyInZone target))
  let _ ← lockDeck deck
  let removal ← removeFromZone deck card quantity (some source)
  let entry ← addToZone deck card quantity target
  return ⟨removal, entry⟩

/-- The order in which the entries of a released deck go back to the binder: by
card, and for one card the main zone first. -/
def releaseOrder (left right : DeckEntry) : Bool :=
  left.card.rank < right.card.rank ||
    (left.card = right.card && left.zone.rank ≤ right.zone.rank)

/-- Credit each entry to a binder, one after another. -/
def creditAll (owner : Uuid) : List DeckEntry → Ledger Unit
  | [] => return ()
  | entry :: rest => do
      let _ ← credit owner entry.card entry.quantity
      creditAll owner rest

/-- Add a quantity to that of a card in a list of totals in the order of cards. -/
def addTotal (card : Uuid) (quantity : Int) : List (Uuid × Int) → List (Uuid × Int)
  | [] => [(card, quantity)]
  | (other, total) :: rest =>
      if card = other then (other, total + quantity) :: rest
      else if card.rank < other.rank then (card, quantity) :: (other, total) :: rest
      else (other, total) :: addTotal card quantity rest

/-- The copies of each card in a list of entries, in the order of cards. -/
def totalsByCard (entries : List DeckEntry) : List (Uuid × Int) :=
  entries.foldl (fun totals entry => addTotal entry.card entry.quantity totals) []

/-- Return all copies of a deck to its owner's binder and delete the deck. -/
def releaseDeck (deck : Uuid) : Ledger ReleasedDeck := do
  let row ← lockDeck deck
  let listed ← ask (.entriesOfDeck deck)
  let entries := listed.mergeSort releaseOrder
  creditAll row.owner entries
  let _ ← ask (.clearDeck deck)
  ensure (← ask (.deleteDeck deck)) (.notFound .deck deck.text)
  return ⟨row, totalsByCard entries⟩

end CardInventory.Ledger
