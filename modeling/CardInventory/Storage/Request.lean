import CardInventory.Catalog.Filter
import CardInventory.Collection.Binder
import CardInventory.Collection.Deck
import CardInventory.Collection.User

/-!
# Storage requests

Everything the rules of the inventory ask of a storage. A request that locks
keeps the rows it reads from other units of work until its own unit ends. Each
request has its type of reply.
-/

namespace CardInventory.Storage

/-- A request to a storage. -/
inductive Request where
  | cardExists (id : Uuid)
  | findCard (id : Uuid)
  | findCards (ids : List Uuid)
  | searchCards (search : Search)
  | createCard (draft : CardDraft)
  | userExists (id : Uuid)
  | findUser (id : Uuid)
  | createUser (draft : UserDraft)
  | lockBinderEntry (user card : Uuid)
  | addToBinder (user card : Uuid) (quantity : Int)
  | setInBinder (user card : Uuid) (quantity : Int)
  | deleteFromBinder (user card : Uuid)
  | listBinder (user : Uuid) (search : Search)
  | createDeck (draft : DeckDraft)
  | findDeck (id : Uuid)
  | lockDecks (ids : List Uuid)
  | updateDeck (id : Uuid) (patch : DeckPatch)
  | deleteDeck (id : Uuid)
  | decksOfUser (owner : Uuid)
  | entriesOfDeck (deck : Uuid)
  | lockDeckEntry (deck card : Uuid) (zone : Zone)
  | addToDeck (deck card : Uuid) (zone : Zone) (quantity : Int)
  | setInDeck (deck card : Uuid) (zone : Zone) (quantity : Int)
  | deleteFromDeck (deck card : Uuid) (zone : Zone)
  | clearDeck (deck : Uuid)
  | totalInDeck (deck : Uuid)

/-- A page of a listing and the length of the whole listing. -/
structure Page (α : Type) where
  items : List α
  total : Int

/-- The type of the reply to a request. Where several rows are asked for by their
identifiers, the reply holds the rows that exist. -/
@[reducible]
def Request.Reply : Request → Type
  | cardExists _ => Bool
  | findCard _ => Option Card
  | findCards _ => List Card
  | searchCards _ => Page Card
  | createCard _ => Card
  | userExists _ => Bool
  | findUser _ => Option User
  | createUser _ => User
  | lockBinderEntry _ _ => Option BinderEntry
  | addToBinder _ _ _ => BinderEntry
  | setInBinder _ _ _ => BinderEntry
  | deleteFromBinder _ _ => Bool
  | listBinder _ _ => Page BinderListing
  | createDeck _ => Deck
  | findDeck _ => Option Deck
  | lockDecks _ => List Deck
  | updateDeck _ _ => Deck
  | deleteDeck _ => Bool
  | decksOfUser _ => List DeckSummary
  | entriesOfDeck _ => List DeckEntry
  | lockDeckEntry _ _ _ => Option DeckEntry
  | addToDeck _ _ _ _ => DeckEntry
  | setInDeck _ _ _ _ => DeckEntry
  | deleteFromDeck _ _ _ => Bool
  | clearDeck _ => Nat
  | totalInDeck _ => Int

/-- The row with an identifier among rows that were asked for; of several the last. -/
def rowOf? {α : Type} (idOf : α → Uuid) (id : Uuid) (rows : List α) : Option α :=
  rows.reverse.find? fun row => idOf row = id

end CardInventory.Storage
