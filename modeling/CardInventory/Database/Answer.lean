import CardInventory.Database.Exchange
import CardInventory.Database.Record
import CardInventory.Storage.Request

/-!
# Answering requests from a database

The exchange with the server each storage request comes down to. Several decks
are always locked in the order of their identifiers, so that two transactions
never wait for each other. A printing is registered inside a savepoint: if one
of its rows is refused, none of them stays.
-/

namespace CardInventory.Database

open CardInventory.Storage

/-- Put an identifier in its place in an ascending list. -/
def insertAscending (id : Uuid) : List Uuid → List Uuid
  | [] => [id]
  | other :: rest =>
      if id.rank < other.rank then id :: other :: rest
      else if id = other then other :: rest
      else other :: insertAscending id rest

/-- Identifiers in ascending order, each once. -/
def ascending (ids : List Uuid) : List Uuid :=
  ids.foldr insertAscending []

namespace Exchange

/-- The faces of some printings, in piles. -/
def faces (cards : List Uuid) : Exchange Piles :=
  query (.facesOf cards) fun outcome => (outcome.all Row.face).map Piles.ofFaces

/-- A printing with its faces. -/
def findCard (id : Uuid) : Exchange (Option Card) := do
  match ← queryFirst? (.cardById id) Row.card with
  | some card => do
      let piles ← faces [id]
      return some { card with faces := piles.faces id }
  | none => return none

/-- The printings that exist among some identifiers. -/
def findCards (ids : List Uuid) : Exchange (List Card) := do
  if ids.isEmpty then
    return []
  else
    let cards ← queryAll (.cardsByIds ids) Row.card
    let piles ← faces ids
    return piles.deal cards

/-- A page of the printings that meet a filter. -/
def searchCards (search : Search) : Exchange (Page Card) := do
  let cards ← queryAll (.searchCards search) Row.card
  let total ← queryValue (.countCards search.filter) Cell.int64?
  let piles ← faces (cards.map fun card => card.id)
  return ⟨piles.deal cards, total⟩

/-- Insert faces one after another. -/
def insertFaces (card : Uuid) : List Face → Exchange Unit
  | [] => return ()
  | face :: rest => do
      let _ ← execute (.insertFace card face)
      insertFaces card rest

/-- Register a printing. -/
def createCard (draft : CardDraft) : Exchange Card := do
  control .savepoint
  let card ← queryFirst (.insertCard draft) Row.card
  insertFaces card.id draft.faces
  control .release
  return { card with faces := Face.inOrder draft.faces }

/-- A page of the binder of a user. -/
def listBinder (user : Uuid) (search : Search) : Exchange (Page BinderListing) := do
  let listings ← queryAll (.listBinder user search) Row.listing
  let total ← queryValue (.countBinder user search.filter) Cell.int64?
  return ⟨listings, total⟩

/-- The users that exist among some identifiers. -/
def findUsers (ids : List Uuid) : Exchange (List User) :=
  if ids.isEmpty then return [] else queryAll (.usersByIds ids) Row.user

/-- The decks that exist among some identifiers. -/
def findDecks (ids : List Uuid) : Exchange (List Deck) :=
  if ids.isEmpty then return [] else queryAll (.decksByIds ids) Row.deck

/-- Whether a statement has changed any row. -/
def changesRows (statement : Statement) : Exchange Bool := do
  let count ← execute statement
  return 0 < count

end Exchange

/-- The exchange a request comes down to. A new record gets the identifier `fresh`. -/
def exchange (fresh : Uuid) : (request : Request) → Exchange request.Reply
  | .cardExists id => .queryValue (.cardExists id) Cell.flag?
  | .findCard id => .findCard id
  | .findCards ids => .findCards ids
  | .searchCards search => .searchCards search
  | .createCard draft => .createCard draft
  | .userExists id => .queryValue (.userExists id) Cell.flag?
  | .findUser id => .queryFirst? (.userById id) Row.user
  | .createUser draft => .queryFirst (.insertUser fresh draft) Row.user
  | .lockBinderEntry user card => .queryFirst? (.lockBinderEntry user card) Row.binderEntry
  | .addToBinder user card quantity => .queryFirst (.addToBinder user card quantity) Row.binderEntry
  | .setInBinder user card quantity => .queryFirst (.setInBinder user card quantity) Row.binderEntry
  | .deleteFromBinder user card => .changesRows (.deleteFromBinder user card)
  | .listBinder user search => .listBinder user search
  | .createDeck draft => .queryFirst (.insertDeck fresh draft) Row.deck
  | .findDeck id => .queryFirst? (.deckById id) Row.deck
  | .lockDecks ids => .queryAll (.lockDecks (ascending ids)) Row.deck
  | .updateDeck id patch => .queryFirst (.updateDeck id patch) Row.deck
  | .deleteDeck id => .changesRows (.deleteDeck id)
  | .decksOfUser owner => .queryAll (.decksOfOwner owner) Row.summary
  | .entriesOfDeck deck => .queryAll (.entriesOfDeck deck) Row.deckEntry
  | .lockDeckEntry deck card zone => .queryFirst? (.lockDeckEntry deck card zone) Row.deckEntry
  | .addToDeck deck card zone quantity =>
      .queryFirst (.addToDeck deck card zone quantity) Row.deckEntry
  | .setInDeck deck card zone quantity =>
      .queryFirst (.setInDeck deck card zone quantity) Row.deckEntry
  | .deleteFromDeck deck card zone => .changesRows (.deleteFromDeck deck card zone)
  | .clearDeck deck => .execute (.clearDeck deck)
  | .totalInDeck deck => .queryValue (.totalInDeck deck) Cell.int64?

end CardInventory.Database
