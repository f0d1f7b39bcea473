import CardInventory.Instant.Basic
import CardInventory.Uuid

/-!
# Users

A user owns one binder and any number of decks.
-/

namespace CardInventory

/-- A user that is to be created. -/
structure UserDraft where
  username : String
  email : Option String
  deriving DecidableEq, Inhabited

/-- A user. -/
structure User extends UserDraft where
  id : Uuid
  createdAt : Instant
  deriving DecidableEq, Inhabited

end CardInventory
