import CardInventory.Instant.Basic
import CardInventory.Uuid
import CardInventory.Width

/-!
# Binders

The binder of a user holds the copies that are in no deck, one entry for each
card with its number of copies. There is no entry for a card without copies.
-/

namespace CardInventory

/-- The copies of a card in a user's binder. -/
structure BinderEntry where
  user : Uuid
  card : Uuid
  quantity : Int
  updatedAt : Instant
  deriving DecidableEq, Inhabited

/-- A binder entry with what a listing shows of its card. -/
structure BinderListing where
  card : Uuid
  quantity : Int
  name : String
  setCode : Option String
  rarity : Option String
  deriving DecidableEq, Inhabited

/-- Whether a sum of copies can be stored. -/
def quantityFits (quantity : Int) : Bool :=
  Width.fits 32 quantity

/-- The sum of numbers of copies. -/
def totalOf (quantities : List Int) : Int :=
  quantities.foldr (· + ·) 0

@[simp]
theorem totalOf_nil : totalOf [] = 0 :=
  rfl

@[simp]
theorem totalOf_cons (quantity : Int) (quantities : List Int) :
    totalOf (quantity :: quantities) = quantity + totalOf quantities :=
  rfl

end CardInventory
