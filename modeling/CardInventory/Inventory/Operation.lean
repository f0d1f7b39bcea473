import CardInventory.Ledger.DeckList
import CardInventory.Ledger.Movement

/-!
# Operations of the inventory

Every public operation runs as one unit of work of its own. An operation first
checks its arguments without any storage; what is left is a ledger rule. Those
that change something commit their unit when the rule has succeeded, and those
that only read never do.
-/

namespace CardInventory.Inventory

open CardInventory.Ledger CardInventory.Storage

/-- A deck a user asks for. Without a capacity it gets the default one, unless it is
to be unlimited. -/
structure DeckProposal where
  owner : Uuid
  name : String
  format : String
  capacity : Option Int
  unlimited : Bool
  notes : Option String
  deriving DecidableEq, Inhabited

/-- A deck with its entries. -/
structure DeckDetail where
  deck : Deck
  entries : List DeckEntry
  deriving DecidableEq

/-- The copies in the zones of a deck. -/
structure DeckTotals where
  deck : Uuid
  main : Int
  sideboard : Int
  total : Int
  capacity : Option Int
  deriving DecidableEq

/-- An operation of the inventory. -/
inductive Operation where
  | createUser (draft : UserDraft)
  | getUser (id : Uuid)
  | registerCard (draft : CardDraft)
  | searchCards (search : Search)
  | getCard (id : Uuid)
  | creditBinder (user card : Uuid) (quantity : Int)
  | debitBinder (user card : Uuid) (quantity : Int)
  | binderQuantity (user card : Uuid)
  | listBinder (user : Uuid) (search : Search)
  | createDeck (proposal : DeckProposal)
  | getDeck (id : Uuid)
  | listUserDecks (owner : Uuid)
  | updateDeck (id : Uuid) (patch : DeckPatch)
  | deleteDeck (id : Uuid)
  | deckTotals (id : Uuid)
  | exportDeck (id : Uuid)
  | allocate (deck card : Uuid) (quantity : Int) (zone : Zone)
  | deallocate (deck card : Uuid) (quantity : Int) (zone : Option Zone)
  | transfer (source destination card : Uuid) (quantity : Int) (zone : Option Zone)
  | moveZone (deck card : Uuid) (quantity : Int) (source target : Zone)

namespace Operation

/-- What an operation results in. -/
@[reducible]
def Result : Operation → Type
  | createUser _ => User
  | getUser _ => User
  | registerCard _ => Card
  | searchCards _ => Page Card
  | getCard _ => Card
  | creditBinder _ _ _ => BinderEntry
  | debitBinder _ _ _ => Option BinderEntry
  | binderQuantity _ _ => Int
  | listBinder _ _ => Page BinderListing
  | createDeck _ => Deck
  | getDeck _ => DeckDetail
  | listUserDecks _ => List DeckSummary
  | updateDeck _ _ => Deck
  | deleteDeck _ => ReleasedDeck
  | deckTotals _ => DeckTotals
  | exportDeck _ => String
  | allocate _ _ _ _ => DeckEntry
  | deallocate _ _ _ _ => Removal
  | transfer _ _ _ _ _ => TransferOutcome
  | moveZone _ _ _ _ _ => ZoneMove

/-- Whether an operation changes anything, so that its unit is to be committed. -/
def mutates : Operation → Bool
  | getUser _ => false
  | searchCards _ => false
  | getCard _ => false
  | binderQuantity _ _ => false
  | listBinder _ _ => false
  | getDeck _ => false
  | listUserDecks _ => false
  | deckTotals _ => false
  | exportDeck _ => false
  | _ => true

end Operation

end CardInventory.Inventory
