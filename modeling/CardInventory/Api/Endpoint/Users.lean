import CardInventory.Api.Body.Deck
import CardInventory.Api.Body.User
import CardInventory.Api.Endpoint.Basic

/-!
# Endpoints for users

Creating a user, showing one, and listing the decks of one.
-/

namespace CardInventory.Api.Endpoint

/-- Create a user. -/
def createUser : Endpoint where
  method := "POST"
  path := [.fixed "users"]
  name := "create_user"
  tag := "users"
  summary := "Create user"
  description := none
  responses :=
    [(201, "User created"), (400, "Blank username"), (409, "Username already taken"),
      internalError]
  handle _ request := do
    let draft ← bodyAs userDraft request
    return ⟨.createUser (tidyUser draft), fun result => respondWith 201 (user.toTree result)⟩

/-- Show a user. -/
def getUser : Endpoint where
  method := "GET"
  path := [.fixed "users", .place "id"]
  name := "get_user"
  tag := "users"
  summary := "Get user"
  description := none
  responses := [(200, "User"), (404, "User not found"), internalError]
  handle := withId fun id _ =>
    return ⟨.getUser id, fun result => respondWith 200 (user.toTree result)⟩

/-- List the decks of a user. -/
def listUserDecks : Endpoint where
  method := "GET"
  path := [.fixed "users", .place "user_id", .fixed "decks"]
  name := "list_user_decks"
  tag := "decks"
  summary := "List a user's decks"
  description :=
    some "Every deck owned by the user with the total number of copies allocated to it."
  responses := [(200, "Decks, newest first"), (404, "User not found"), internalError]
  handle := withId fun id _ =>
    return ⟨.listUserDecks id,
      fun decks => respondWith 200 (.array (decks.map deckSummary.toTree))⟩

end CardInventory.Api.Endpoint
