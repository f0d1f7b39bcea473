import CardInventory.Collection.User
import CardInventory.Json.Format
import CardInventory.Text.Blank

/-!
# Bodies of users

Users as JSON.
-/

namespace CardInventory.Api

open CardInventory.Json

/-- Users that are to be created. -/
def userDraft : Format UserDraft :=
  .record
    (.cons (.required "username" .text) <|
     .cons (.optional "email" .text) .nil)
    (fun (username, email, _) => ⟨username, email⟩)
    (fun draft => (draft.username, draft.email, ()))

/-- A user to be created, with the name trimmed. -/
def tidyUser (draft : UserDraft) : UserDraft :=
  { draft with username := Text.trim draft.username }

/-- Users. -/
def user : Format User :=
  .record
    (.cons (.required "id" .uuid) <|
     .cons (.required "username" .text) <|
     .cons (.optional "email" .text) <|
     .cons (.required "created_at" .instant) .nil)
    (fun (id, username, email, createdAt, _) => ⟨⟨username, email⟩, id, createdAt⟩)
    (fun user => (user.id, user.username, user.email, user.createdAt, ()))

end CardInventory.Api
