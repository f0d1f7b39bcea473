import CardInventory.Instant.Basic
import CardInventory.Uuid

/-!
# Card printings

The catalog holds printings of cards. A printing has one or several faces, each
with its own rules text, and is never altered once it has been registered.
-/

namespace CardInventory

/-- One face of a printing. -/
structure Face where
  index : Int
  name : String
  manaCost : Option String
  manaValue : Option Float
  typeLine : Option String
  rulesText : Option String
  colors : List String
  power : Option String
  toughness : Option String
  imageUrl : Option String
  deriving Inhabited

/-- A printing that is to be registered under an identifier of its own. -/
structure CardDraft where
  id : Uuid
  name : String
  setCode : Option String
  collectorNumber : Option String
  rarity : Option String
  layout : Option String
  faces : List Face
  deriving Inhabited

/-- A registered printing. -/
structure Card extends CardDraft where
  createdAt : Instant
  deriving Inhabited

/-- The faces in the order of their indices; faces of one index keep their order. -/
def Face.inOrder (faces : List Face) : List Face :=
  faces.mergeSort fun left right => left.index ≤ right.index

end CardInventory
