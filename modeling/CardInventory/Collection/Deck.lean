import CardInventory.Instant.Basic
import CardInventory.Uuid
import CardInventory.Zone

/-!
# Decks

A deck belongs to a user and holds copies of cards in its two zones. It may have
a capacity, which limits the copies in both zones together.
-/

namespace CardInventory

/-- A deck that is to be stored. -/
structure DeckDraft where
  owner : Uuid
  name : String
  format : String
  capacity : Option Int
  notes : Option String
  deriving DecidableEq, Inhabited

/-- A deck. -/
structure Deck extends DeckDraft where
  id : Uuid
  createdAt : Instant
  updatedAt : Instant
  deriving DecidableEq, Inhabited

/-- A change of a deck. An absent field stays as it is; the notes and the capacity
may also be cleared. -/
structure DeckPatch where
  name : Option String
  format : Option String
  notes : Option (Option String)
  capacity : Option (Option Int)
  deriving DecidableEq, Inhabited

/-- A deck with a change made to it. -/
def DeckPatch.apply (patch : DeckPatch) (deck : Deck) (now : Instant) : Deck :=
  { deck with
    name := patch.name.getD deck.name
    format := patch.format.getD deck.format
    notes := patch.notes.getD deck.notes
    capacity := patch.capacity.getD deck.capacity
    updatedAt := now }

/-- The copies of a card in a zone of a deck. -/
structure DeckEntry where
  deck : Uuid
  card : Uuid
  zone : Zone
  quantity : Int
  updatedAt : Instant
  deriving DecidableEq, Inhabited

/-- A deck with the number of copies in it. -/
structure DeckSummary where
  deck : Deck
  cardCount : Int
  deriving DecidableEq, Inhabited

end CardInventory
