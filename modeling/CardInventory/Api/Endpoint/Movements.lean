import CardInventory.Api.Body.Movement
import CardInventory.Api.Endpoint.Basic

/-!
# Endpoints for movements

Moving copies between a binder and a deck, between two decks, and between the
zones of one deck.
-/

namespace CardInventory.Api.Endpoint

/-- Move copies from the binder into a deck. -/
def allocate : Endpoint where
  method := "POST"
  path := [.fixed "decks", .place "id", .fixed "allocations"]
  name := "allocate"
  tag := "transfers"
  summary := "Allocate cards to a deck"
  description := some "Moves copies from the owner's binder into a zone of the deck."
  responses :=
    [(200, "Deck entry after the allocation"), (400, "Quantity not positive"),
      (404, "Deck or card not found"),
      (409, "Binder holds too few copies, or the deck is full"), internalError]
  handle := withId fun deck request => do
    let body ← bodyAs allocation request
    return ⟨.allocate deck body.card body.quantity body.zone,
      fun entry => respondWith 200 (filledEntry entry)⟩

/-- Move copies from a deck into the binder. -/
def deallocate : Endpoint where
  method := "POST"
  path := [.fixed "decks", .place "id", .fixed "deallocations"]
  name := "deallocate"
  tag := "transfers"
  summary := "Return cards to the binder"
  description :=
    some ("Moves copies from the deck back to the owner's binder. " ++
      "Without a zone the main entry is used if present, otherwise the sideboard.")
  responses :=
    [(200, "Zone entry after the removal"), (400, "Quantity not positive"),
      (404, "Deck or deck entry not found"), (409, "Entry holds too few copies"),
      internalError]
  handle := withId fun deck request => do
    let body ← bodyAs deallocation request
    return ⟨.deallocate deck body.card body.quantity body.zone,
      fun result => respondWith 200 (removal result)⟩

/-- Move copies between the zones of a deck. -/
def moveZone : Endpoint where
  method := "POST"
  path := [.fixed "decks", .place "id", .fixed "zone-moves"]
  name := "move_zone"
  tag := "transfers"
  summary := "Move cards between zones"
  description :=
    some "Moves copies between the main deck and the sideboard. The deck total is unchanged."
  responses :=
    [(200, "Both zone entries after the move"),
      (400, "Quantity not positive, or source and target zone are the same"),
      (404, "Deck or deck entry not found"), (409, "Entry holds too few copies"),
      internalError]
  handle := withId fun deck request => do
    let body ← bodyAs zoneMove request
    return ⟨.moveZone deck body.card body.quantity body.source body.target,
      fun moved => respondWith 200 (zoneMoveOutcome moved)⟩

/-- Move copies from one deck into another. -/
def transfer : Endpoint where
  method := "POST"
  path := [.fixed "transfers"]
  name := "transfer"
  tag := "transfers"
  summary := "Transfer cards between decks"
  description :=
    some ("Moves copies from one deck into the main zone of another deck with the same owner, " ++
      "as a single unit.")
  responses :=
    [(200, "Source and destination entries after the transfer"),
      (400, "Quantity not positive, same deck, or decks with different owners"),
      (404, "Deck or deck entry not found"),
      (409, "Source holds too few copies, or the destination is full"), internalError]
  handle _ request := do
    let body ← bodyAs Api.transfer request
    return ⟨.transfer body.source body.destination body.card body.quantity body.zone,
      fun outcome => respondWith 200 (transferOutcome outcome)⟩

end CardInventory.Api.Endpoint
