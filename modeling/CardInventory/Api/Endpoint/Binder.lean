import CardInventory.Api.Body.Movement
import CardInventory.Api.Endpoint.Basic

/-!
# Endpoints for binders

Listing a binder, and showing, crediting and debiting the copies of a card.
-/

namespace CardInventory.Api.Endpoint

/-- List a binder. -/
def listBinder : Endpoint where
  method := "GET"
  path := [.fixed "users", .place "user_id", .fixed "binder"]
  name := "list_binder"
  tag := "binder"
  summary := "List binder"
  description :=
    some ("Cards the user holds outside any deck, ordered by card name. " ++
      "Card and face criteria narrow the list together.")
  responses := [(200, "Page of binder entries"), (404, "User not found"), internalError]
  handle := withId fun user request => do
    let search := (← queryOf request).search
    return ⟨.listBinder user search,
      fun page => respondWith 200 (pageBody binderListing search page)⟩

/-- Show the copies of a card in a binder. -/
def showQuantity : Endpoint where
  method := "GET"
  path := [.fixed "users", .place "user_id", .fixed "binder", .place "card_id"]
  name := "binder_quantity"
  tag := "binder"
  summary := "Binder quantity"
  description := some "Copies of a card held in the binder. Unknown pairs report 0."
  responses := [(200, "Quantity held"), internalError]
  handle := withIds fun user card _ =>
    return ⟨.binderQuantity user card,
      fun quantity => respondWith 200 (binderQuantity user card quantity)⟩

/-- Credit a binder. -/
def creditBinder : Endpoint where
  method := "POST"
  path := [.fixed "users", .place "user_id", .fixed "binder", .place "card_id", .fixed "credit"]
  name := "credit_binder"
  tag := "binder"
  summary := "Credit binder"
  description := some "Add copies of a card to the user's binder."
  responses :=
    [(200, "Quantity after the credit"), (400, "Quantity not positive"),
      (404, "User or card not found"), internalError]
  handle := withIds fun user card request => do
    let change ← bodyAs quantityChange request
    return ⟨.creditBinder user card change.quantity,
      fun entry => respondWith 200 (binderQuantity entry.user entry.card entry.quantity)⟩

/-- Debit a binder. -/
def debitBinder : Endpoint where
  method := "POST"
  path := [.fixed "users", .place "user_id", .fixed "binder", .place "card_id", .fixed "debit"]
  name := "debit_binder"
  tag := "binder"
  summary := "Debit binder"
  description :=
    some ("Remove copies of a card from the user's binder. " ++
      "Removing every copy deletes the entry.")
  responses :=
    [(200, "Quantity after the debit"), (400, "Quantity not positive"),
      (404, "No binder entry for this card"), (409, "Fewer copies held than requested"),
      internalError]
  handle := withIds fun user card request => do
    let change ← bodyAs quantityChange request
    return ⟨.debitBinder user card change.quantity, fun entry =>
      match entry with
      | some entry => respondWith 200 (binderQuantity entry.user entry.card entry.quantity)
      | none => respondWith 200 (binderQuantity user card 0)⟩

end CardInventory.Api.Endpoint
