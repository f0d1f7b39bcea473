import CardInventory.Api.Body.Deck
import CardInventory.Api.Endpoint.Basic

/-!
# Endpoints for decks

Creating, showing, changing and deleting a deck, its totals and its deck list.
-/

namespace CardInventory.Api.Endpoint

/-- Create a deck. -/
def createDeck : Endpoint where
  method := "POST"
  path := [.fixed "decks"]
  name := "create_deck"
  tag := "decks"
  summary := "Create deck"
  description :=
    some ("Creates an empty deck. Without `capacity` the configured default limit applies; " ++
      "`unlimited: true` stores no limit.")
  responses :=
    [(201, "Deck created"), (400, "Blank name or format, or capacity below 1"),
      (404, "Owner not found"), internalError]
  handle _ request := do
    let proposal ← bodyAs deckProposal request
    return ⟨.createDeck proposal, fun result => respondWith 201 (deck.toTree result)⟩

/-- Show a deck with its entries. -/
def getDeck : Endpoint where
  method := "GET"
  path := [.fixed "decks", .place "id"]
  name := "get_deck"
  tag := "decks"
  summary := "Get deck"
  description := none
  responses := [(200, "Deck with its entries"), (404, "Deck not found"), internalError]
  handle := withId fun id _ =>
    return ⟨.getDeck id, fun detail => respondWith 200 (deckDetail.toTree (.ofDetail detail))⟩

/-- Change a deck. -/
def updateDeck : Endpoint where
  method := "PATCH"
  path := [.fixed "decks", .place "id"]
  name := "update_deck"
  tag := "decks"
  summary := "Update deck metadata"
  description :=
    some ("Absent fields are unchanged. `capacity: null` removes the limit. " ++
      "A limit below the cards already in the deck is rejected.")
  responses :=
    [(200, "Updated deck"), (400, "Blank name or format, or capacity below 1"),
      (404, "Deck not found"), (409, "New limit below the current total"), internalError]
  handle := withId fun id request => do
    let patch ← bodyAs deckPatch request
    return ⟨.updateDeck id patch, fun result => respondWith 200 (deck.toTree result)⟩

/-- Delete a deck. -/
def deleteDeck : Endpoint where
  method := "DELETE"
  path := [.fixed "decks", .place "id"]
  name := "delete_deck"
  tag := "decks"
  summary := "Delete deck"
  description := some "Returns every copy in the deck to the owner's binder, then deletes it."
  responses := [(200, "Deck deleted"), (404, "Deck not found"), internalError]
  handle := withId fun id _ =>
    return ⟨.deleteDeck id, fun released => respondWith 200 (releasedDeck released)⟩

/-- Show the totals of a deck. -/
def showTotals : Endpoint where
  method := "GET"
  path := [.fixed "decks", .place "id", .fixed "totals"]
  name := "deck_totals"
  tag := "decks"
  summary := "Deck totals"
  description := none
  responses := [(200, "Copies per zone and overall"), (404, "Deck not found"), internalError]
  handle := withId fun id _ =>
    return ⟨.deckTotals id, fun totals => respondWith 200 (deckTotals totals)⟩

/-- Show the deck list of a deck. -/
def exportDeck : Endpoint where
  method := "GET"
  path := [.fixed "decks", .place "id", .fixed "export"]
  name := "export_deck"
  tag := "decks"
  summary := "Export deck list"
  description :=
    some ("Plain-text list of `\x7bqty\x7d \x7bname\x7d` lines. Sideboard cards follow a " ++
      "`Sideboard` header, omitted when the sideboard is empty.")
  responses := [(200, "Deck list"), (404, "Deck not found"), internalError]
  handle := withId fun id _ =>
    return ⟨.exportDeck id, fun list => .of 200 (.text list)⟩

end CardInventory.Api.Endpoint
