import CardInventory.Api.Body.Card
import CardInventory.Api.Endpoint.Basic

/-!
# Endpoints for the card catalog

Searching printings, registering one, and showing one.
-/

namespace CardInventory.Api.Endpoint

/-- Search the catalog. -/
def listCards : Endpoint where
  method := "GET"
  path := [.fixed "cards"]
  name := "list_cards"
  tag := "cards"
  summary := "Search catalog"
  description :=
    some "Printings ordered by name. Card and face criteria narrow the list together."
  responses := [(200, "Page of card printings"), internalError]
  handle _ request := do
    let search := (← queryOf request).search
    return ⟨.searchCards search, fun page => respondWith 200 (pageBody card.toTree search page)⟩

/-- Register a printing. -/
def registerCard : Endpoint where
  method := "POST"
  path := [.fixed "cards"]
  name := "register_card"
  tag := "cards"
  summary := "Register card printing"
  description :=
    some ("Adds a printing and its faces to the catalog. Used by importers; " ++
      "the id is the stable catalog id.")
  responses :=
    [(201, "Card registered"), (400, "Blank name or no faces"),
      (409, "Card id already registered"), internalError]
  handle _ request := do
    let draft ← bodyAs cardDraft request
    return ⟨.registerCard (tidyCard draft), fun result => respondWith 201 (card.toTree result)⟩

/-- Show a printing. -/
def getCard : Endpoint where
  method := "GET"
  path := [.fixed "cards", .place "id"]
  name := "get_card"
  tag := "cards"
  summary := "Get card printing"
  description := none
  responses :=
    [(200, "Card with faces in printed order"), (404, "Card not found"), internalError]
  handle := withId fun id _ =>
    return ⟨.getCard id, fun result => respondWith 200 (card.toTree result)⟩

end CardInventory.Api.Endpoint
