import CardInventory.Ledger.Basic

/-!
# Deck rules

Copies are added to a zone of a deck and removed from it. A removal looks at one
entry only: that of the zone it names, or the first that exists in the order of
removals. It never takes copies from two zones.
-/

namespace CardInventory.Ledger

open Storage

/-- What a removal has left of an entry. -/
inductive Removal where
  | remaining (entry : DeckEntry)
  | emptied (zone : Zone)
  deriving DecidableEq

/-- The zone copies were removed from. -/
def Removal.zone : Removal → Zone
  | remaining entry => entry.zone
  | emptied zone => zone

/-- The number of copies left. -/
def Removal.quantity : Removal → Int
  | remaining entry => entry.quantity
  | emptied _ => 0

/-- Lock a deck that must exist. -/
def lockDeck (deck : Uuid) : Ledger Deck := do
  found (rowOf? Deck.id deck (← ask (.lockDecks [deck]))) (.notFound .deck deck.text)

/-- The capacity of a deck must allow more copies. -/
def ensureCapacity (deck : Deck) (quantity : Int) : Ledger Unit := do
  let current ← ask (.totalInDeck deck.id)
  .ofExcept (checkCapacity deck.capacity current quantity)

/-- Add copies of a card to a zone. The capacity and the binder are the caller's part. -/
def addToZone (deck card : Uuid) (quantity : Int) (zone : Zone) : Ledger DeckEntry := do
  ensurePositive quantity
  ensure (← ask (.findDeck deck)).isSome (.notFound .deck deck.text)
  ensure (← ask (.cardExists card)) (.notFound .card card.text)
  let entry ← ask (.lockDeckEntry deck card zone)
  let current := entry.elim 0 DeckEntry.quantity
  ensure (quantityFits (current + quantity)) (.invalid (.entryCannotGrow current quantity))
  ask (.addToDeck deck card zone quantity)

/-- The first entry of a card that exists in the given zones. -/
def firstEntry (deck card : Uuid) : List Zone → Ledger DeckEntry
  | [] => refuse (.notFound .deckEntry s!"{deck}/{card}")
  | zone :: rest => do
      match ← ask (.lockDeckEntry deck card zone) with
      | some entry => return entry
      | none => firstEntry deck card rest

/-- The zones a removal looks at. -/
def removalZones (zone : Option Zone) : List Zone :=
  zone.elim Zone.removalOrder fun zone => [zone]

/-- Remove copies of a card from a zone. -/
def removeFromZone (deck card : Uuid) (quantity : Int) (zone : Option Zone) : Ledger Removal := do
  ensurePositive quantity
  let entry ← firstEntry deck card (removalZones zone)
  ensure (quantity ≤ entry.quantity) (.insufficient entry.quantity quantity)
  if quantity = entry.quantity then
    let _ ← ask (.deleteFromDeck deck card entry.zone)
    return .emptied entry.zone
  else
    return .remaining (← ask (.setInDeck deck card entry.zone (entry.quantity - quantity)))

end CardInventory.Ledger
