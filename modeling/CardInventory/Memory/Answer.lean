import CardInventory.Memory.Store
import CardInventory.Procedure

/-!
# Answering requests from tables

Each request has its answer from the tables in memory and the tables it leaves
behind. A unit of work runs on a copy of the tables; what it has done is kept
when it is committed and forgotten when it is dropped.
-/

namespace CardInventory.Memory

open CardInventory.Storage

namespace Store

/-- Register a printing under its identifier. -/
def createCard (draft : CardDraft) (moment : Moment) (store : Store) :
    Except Fault (Card × Store) := do
  expect (!store.cards.contains draft.id) (duplicateFault "cards" "cards_pkey" draft.id.text)
  let card : Card := { draft with faces := Face.inOrder draft.faces, createdAt := moment.time }
  return (card, { store with cards := store.cards.insert card.id card })

/-- Create a user with a name of their own. -/
def createUser (draft : UserDraft) (moment : Moment) (store : Store) :
    Except Fault (User × Store) := do
  expect (!Text.isBlankText draft.username) (checkFault "users" "users_username_not_blank")
  expect (!store.users.values.any fun user => user.username = draft.username)
    (duplicateFault "users" "users_username_key" draft.username)
  let user : User := { draft with id := moment.fresh, createdAt := moment.time }
  return (user, { store with users := store.users.insert user.id user })

/-- Store a number of copies in a binder. -/
def putInBinder (user card : Uuid) (quantity : Int) (moment : Moment) (store : Store) :
    Except Fault (BinderEntry × Store) := do
  expect (0 < quantity) (checkFault "binder_entries" "binder_entries_quantity_positive")
  let entry : BinderEntry := ⟨user, card, quantity, moment.time⟩
  return (entry, { store with binder := store.binder.insert ⟨user, card⟩ entry })

/-- Add copies to a binder entry, which is created where there is none. -/
def addToBinder (user card : Uuid) (quantity : Int) (moment : Moment) (store : Store) :
    Except Fault (BinderEntry × Store) := do
  store.ensureBinderKeys user card
  let current := (store.binder.get? ⟨user, card⟩).elim 0 BinderEntry.quantity
  expect (quantityFits (current + quantity)) rangeFault
  store.putInBinder user card (current + quantity) moment

/-- Set the copies of a binder entry that exists. -/
def setInBinder (user card : Uuid) (quantity : Int) (moment : Moment) (store : Store) :
    Except Fault (BinderEntry × Store) := do
  expect (store.binder.contains ⟨user, card⟩) .notFound
  store.putInBinder user card quantity moment

/-- Create a deck of a user. -/
def createDeck (draft : DeckDraft) (moment : Moment) (store : Store) :
    Except Fault (Deck × Store) := do
  expect (store.users.contains draft.owner) (danglingFault "decks" "decks_owner_id_fkey")
  ensureDeck draft
  let deck : Deck :=
    { draft with id := moment.fresh, createdAt := moment.time, updatedAt := moment.time }
  return (deck, { store with decks := store.decks.insert deck.id deck })

/-- Change a deck that exists. -/
def updateDeck (id : Uuid) (patch : DeckPatch) (moment : Moment) (store : Store) :
    Except Fault (Deck × Store) := do
  match store.decks.get? id with
  | none => throw .notFound
  | some deck => do
      let changed := patch.apply deck moment.time
      ensureDeck changed.toDeckDraft
      return (changed, { store with decks := store.decks.insert id changed })

/-- Delete the entries of a deck. -/
def clearDeck (deck : Uuid) (store : Store) : Store :=
  { store with entries := store.entries.select fun key => key.deck ≠ deck }

/-- Delete a deck with its entries. -/
def deleteDeck (deck : Uuid) (store : Store) : Store :=
  { store.clearDeck deck with decks := store.decks.erase deck }

/-- Store a number of copies in a zone of a deck. -/
def putInDeck (deck card : Uuid) (zone : Zone) (quantity : Int) (moment : Moment)
    (store : Store) : Except Fault (DeckEntry × Store) := do
  expect (0 < quantity) (checkFault "deck_entries" "deck_entries_quantity_positive")
  let entry : DeckEntry := ⟨deck, card, zone, quantity, moment.time⟩
  return (entry, { store with entries := store.entries.insert ⟨deck, card, zone⟩ entry })

/-- Add copies to a deck entry, which is created where there is none. -/
def addToDeck (deck card : Uuid) (zone : Zone) (quantity : Int) (moment : Moment)
    (store : Store) : Except Fault (DeckEntry × Store) := do
  store.ensureEntryKeys deck card
  let current := (store.entries.get? ⟨deck, card, zone⟩).elim 0 DeckEntry.quantity
  expect (quantityFits (current + quantity)) rangeFault
  store.putInDeck deck card zone (current + quantity) moment

/-- Set the copies of a deck entry that exists. -/
def setInDeck (deck card : Uuid) (zone : Zone) (quantity : Int) (moment : Moment)
    (store : Store) : Except Fault (DeckEntry × Store) := do
  expect (store.entries.contains ⟨deck, card, zone⟩) .notFound
  store.putInDeck deck card zone quantity moment

/-- The outcome of a change that may be refused; refused, it leaves the tables alone. -/
def settle {α : Type} (store : Store) (outcome : Except Fault (α × Store)) :
    Except Fault α × Store :=
  match outcome with
  | .ok (value, changed) => (.ok value, changed)
  | .error fault => (.error fault, store)

/-- The answer to a request and the tables after it. -/
def answer (moment : Moment) (store : Store) :
    (request : Request) → Except Fault request.Reply × Store
  | .cardExists id => (.ok (store.cards.contains id), store)
  | .findCard id => (.ok (store.cards.get? id), store)
  | .findCards ids => (.ok (ids.filterMap store.cards.get?), store)
  | .searchCards search => (.ok (pageOf search (store.matching search.filter)), store)
  | .createCard draft => store.settle (store.createCard draft moment)
  | .userExists id => (.ok (store.users.contains id), store)
  | .findUser id => (.ok (store.users.get? id), store)
  | .createUser draft => store.settle (store.createUser draft moment)
  | .lockBinderEntry user card => (.ok (store.binder.get? ⟨user, card⟩), store)
  | .addToBinder user card quantity => store.settle (store.addToBinder user card quantity moment)
  | .setInBinder user card quantity => store.settle (store.setInBinder user card quantity moment)
  | .deleteFromBinder user card =>
      (.ok (store.binder.contains ⟨user, card⟩),
        { store with binder := store.binder.erase ⟨user, card⟩ })
  | .listBinder user search => (.ok (pageOf search (store.listings user search.filter)), store)
  | .createDeck draft => store.settle (store.createDeck draft moment)
  | .findDeck id => (.ok (store.decks.get? id), store)
  | .lockDecks ids => (.ok (ids.filterMap store.decks.get?), store)
  | .updateDeck id patch => store.settle (store.updateDeck id patch moment)
  | .deleteDeck id => (.ok (store.decks.contains id), store.deleteDeck id)
  | .decksOfUser owner => (.ok (store.summaries owner), store)
  | .entriesOfDeck deck => (.ok (store.entriesOf deck), store)
  | .lockDeckEntry deck card zone => (.ok (store.entries.get? ⟨deck, card, zone⟩), store)
  | .addToDeck deck card zone quantity =>
      store.settle (store.addToDeck deck card zone quantity moment)
  | .setInDeck deck card zone quantity =>
      store.settle (store.setInDeck deck card zone quantity moment)
  | .deleteFromDeck deck card zone =>
      (.ok (store.entries.contains ⟨deck, card, zone⟩),
        { store with entries := store.entries.erase ⟨deck, card, zone⟩ })
  | .clearDeck deck =>
      (.ok (store.entries.size - (store.clearDeck deck).entries.size), store.clearDeck deck)
  | .totalInDeck deck => (.ok (store.deckTotal deck), store)

end Store

/-- Tables a unit of work has staged, and how many moments have been drawn. -/
structure Staged where
  store : Store
  drawn : Nat

/-- Answer a request at the next moment. -/
def answerNext (moments : Nat → Moment) :
    Procedure.Answerer Request Request.Reply Fault Staged :=
  fun request staged =>
    let (reply, store) := staged.store.answer (moments staged.drawn) request
    (reply, ⟨store, staged.drawn + 1⟩)

end CardInventory.Memory
