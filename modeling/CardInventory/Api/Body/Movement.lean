import CardInventory.Api.Body.Deck

/-!
# Bodies of movements

What a client sends to move copies, and what it learns about the places they
were taken from and put into.
-/

namespace CardInventory.Api

open CardInventory.Json CardInventory.Ledger

/-- A number of copies to credit or to debit. -/
structure QuantityChange where
  quantity : Int
  deriving DecidableEq

/-- Copies to move from the binder into a deck. -/
structure Allocation where
  card : Uuid
  quantity : Int
  zone : Zone
  deriving DecidableEq

/-- Copies to move from a deck into the binder. -/
structure Deallocation where
  card : Uuid
  quantity : Int
  zone : Option Zone
  deriving DecidableEq

/-- Copies to move between the zones of a deck. -/
structure ZoneMoveBody where
  card : Uuid
  quantity : Int
  source : Zone
  target : Zone
  deriving DecidableEq

/-- Copies to move from one deck into another. -/
structure TransferBody where
  source : Uuid
  destination : Uuid
  card : Uuid
  quantity : Int
  zone : Option Zone
  deriving DecidableEq

/-- Numbers of copies. -/
def quantityChange : Format QuantityChange :=
  .record (.cons (.required "quantity" .int32) .nil)
    (fun (quantity, _) => ⟨quantity⟩)
    (fun change => (change.quantity, ()))

/-- Allocations. -/
def allocation : Format Allocation :=
  .record
    (.cons (.required "card_id" .uuid) <|
     .cons (.required "quantity" .int32) <|
     .cons (.withDefault "zone" zone .main) .nil)
    (fun (card, quantity, zone, _) => ⟨card, quantity, zone⟩)
    (fun body => (body.card, body.quantity, body.zone, ()))

/-- Deallocations. -/
def deallocation : Format Deallocation :=
  .record
    (.cons (.required "card_id" .uuid) <|
     .cons (.required "quantity" .int32) <|
     .cons (.optional "zone" zone) .nil)
    (fun (card, quantity, zone, _) => ⟨card, quantity, zone⟩)
    (fun body => (body.card, body.quantity, body.zone, ()))

/-- Moves between zones. -/
def zoneMove : Format ZoneMoveBody :=
  .record
    (.cons (.required "card_id" .uuid) <|
     .cons (.required "quantity" .int32) <|
     .cons (.required "from" zone) <|
     .cons (.required "to" zone) .nil)
    (fun (card, quantity, source, target, _) => ⟨card, quantity, source, target⟩)
    (fun body => (body.card, body.quantity, body.source, body.target, ()))

/-- Transfers. -/
def transfer : Format TransferBody :=
  .record
    (.cons (.required "source_deck_id" .uuid) <|
     .cons (.required "destination_deck_id" .uuid) <|
     .cons (.required "card_id" .uuid) <|
     .cons (.required "quantity" .int32) <|
     .cons (.optional "source_zone" zone) .nil)
    (fun (source, destination, card, quantity, zone, _) =>
      ⟨source, destination, card, quantity, zone⟩)
    (fun body => (body.source, body.destination, body.card, body.quantity, body.zone, ()))

/-- A zone and the copies left in it. -/
def zoneState (zone : Zone) (remaining : Int) : Json :=
  .object [("zone", .text zone.name), ("remaining", .integer remaining)]

/-- What a removal has left. -/
def removal (removal : Removal) : Json :=
  zoneState removal.zone removal.quantity

/-- What a deck entry holds, as if copies had just been taken from it. -/
def remainingOf (entry : DeckEntry) : Json :=
  removal (.remaining entry)

/-- The deck entry after copies were put into it. -/
def filledEntry (entry : DeckEntry) : Json :=
  deckEntry.toTree (.ofEntry entry)

/-- The outcome of a transfer. -/
def transferOutcome (outcome : TransferOutcome) : Json :=
  .object
    [("source", removal outcome.source), ("destination", filledEntry outcome.destination)]

/-- The outcome of a move between zones. -/
def zoneMoveOutcome (moved : ZoneMove) : Json :=
  .object [("from", removal moved.source), ("to", filledEntry moved.target)]

/-- The copies of a card in a binder. -/
def binderQuantity (user card : Uuid) (quantity : Int) : Json :=
  .object
    [("user_id", .text user.text), ("card_id", .text card.text), ("quantity", .integer quantity)]

/-- A listed binder entry. -/
def binderListing (listing : BinderListing) : Json :=
  .object
    [("card_id", .text listing.card.text), ("quantity", .integer listing.quantity),
      ("name", .text listing.name), ("set_code", .ofText? listing.setCode),
      ("rarity", .ofText? listing.rarity)]

end CardInventory.Api
