import CardInventory.Memory.Table
import CardInventory.Storage.Fault
import CardInventory.Storage.Request
import CardInventory.Text.Blank

/-!
# Tables in memory

The state of the storage in memory: a table for each kind of record. What the
constraints of a database schema forbid is refused here with the same faults.
Every request is answered at a moment, which gives the time of a change and the
identifier of a new record. A request that is refused leaves the tables alone.
-/

namespace CardInventory.Memory

open CardInventory.Storage CardInventory.Text

/-- The tables of the inventory. -/
structure Store where
  users : Table Uuid User
  cards : Table Uuid Card
  binder : Table BinderKey BinderEntry
  decks : Table Uuid Deck
  entries : Table EntryKey DeckEntry
  deriving Inhabited

/-- Tables without any row. -/
def Store.empty : Store :=
  ⟨∅, ∅, ∅, ∅, ∅⟩

/-- What is drawn from the outside when a request is answered: the time of day, and
an identifier nobody has used yet. -/
structure Moment where
  time : Instant
  fresh : Uuid

/-- A check constraint is violated. -/
def checkFault (table constraint : String) : Fault :=
  .checkFailed ⟨some constraint, some table,
    s!"new row for relation \"{table}\" violates check constraint \"{constraint}\""⟩

/-- A reference leads nowhere. -/
def danglingFault (table constraint : String) : Fault :=
  .dangling ⟨some constraint, some table,
    s!"insert or update on table \"{table}\" violates foreign key constraint \"{constraint}\""⟩

/-- A unique value is there already. -/
def duplicateFault (table constraint value : String) : Fault :=
  .notUnique ⟨some constraint, some table,
    s!"duplicate key value violates unique constraint \"{constraint}\""⟩ (some value)

/-- A number of copies does not fit its column. -/
def rangeFault : Fault :=
  .other "integer out of range"

/-- Refuse a request unless a condition holds. -/
def expect (condition : Bool) (fault : Fault) : Except Fault Unit :=
  if condition then .ok () else .error fault

namespace Store

/-- A binder entry refers to a user and a card. -/
def ensureBinderKeys (store : Store) (user card : Uuid) : Except Fault Unit := do
  expect (store.users.contains user) (danglingFault "binder_entries" "binder_entries_user_id_fkey")
  expect (store.cards.contains card) (danglingFault "binder_entries" "binder_entries_card_id_fkey")

/-- A deck entry refers to a deck and a card. -/
def ensureEntryKeys (store : Store) (deck card : Uuid) : Except Fault Unit := do
  expect (store.decks.contains deck) (danglingFault "deck_entries" "deck_entries_deck_id_fkey")
  expect (store.cards.contains card) (danglingFault "deck_entries" "deck_entries_card_id_fkey")

/-- A deck has a name and a format, and a capacity of at least one if it has any. -/
def ensureDeck (draft : DeckDraft) : Except Fault Unit := do
  expect (!isBlankText draft.name) (checkFault "decks" "decks_name_not_blank")
  expect (!isBlankText draft.format) (checkFault "decks" "decks_format_not_blank")
  expect (draft.capacity.all fun capacity => 0 < capacity)
    (checkFault "decks" "decks_capacity_positive")

/-- Whether a deck entry lies at or behind the first possible entry of a deck. -/
def notBefore (deck : Uuid) (key : EntryKey) : Bool :=
  (EntryKey.mk deck .zero .main).rank ≤ key.rank

/-- The entries of a deck, read from the first possible one up to another deck's. -/
def scanDeck (store : Store) (deck : Uuid) : List DeckEntry :=
  ((store.entries.rows.dropWhile fun row => !notBefore deck row.1).takeWhile
    fun row => row.1.deck = deck).map Prod.snd

/-- The number of copies in a deck. -/
def deckTotal (store : Store) (deck : Uuid) : Int :=
  totalOf ((store.scanDeck deck).map DeckEntry.quantity)

/-- Printings in the order of their names, and of their identifiers under one name. -/
def byName {α : Type} (name : α → String) (id : α → Uuid) (left right : α) : Bool :=
  name left < name right || (name left = name right && (id left).rank ≤ (id right).rank)

/-- The printings that meet a filter, in order. -/
def matching (store : Store) (filter : Filter) : List Card :=
  (store.cards.values.filter fun card => filter.matchesCard card.toCardDraft).mergeSort
    (byName (fun card => card.name) (fun card => card.id))

/-- The listing of a binder entry whose card meets a filter. -/
def listing? (store : Store) (filter : Filter) (entry : BinderEntry) : Option BinderListing :=
  ((store.cards.get? entry.card).filter fun card => filter.matchesCard card.toCardDraft).map
    fun card => ⟨entry.card, entry.quantity, card.name, card.setCode, card.rarity⟩

/-- The listing of a user's binder, in order. -/
def listings (store : Store) (user : Uuid) (filter : Filter) : List BinderListing :=
  ((store.binder.values.filter fun entry => entry.user = user).filterMap
    (store.listing? filter)).mergeSort (byName BinderListing.name BinderListing.card)

/-- Decks from the newest to the oldest, and by identifier among those of one time. -/
def newestFirst (left right : DeckSummary) : Bool :=
  right.deck.createdAt.earlier left.deck.createdAt ||
    (left.deck.createdAt = right.deck.createdAt && left.deck.id.rank ≤ right.deck.id.rank)

/-- The decks of a user with their totals. -/
def summaries (store : Store) (owner : Uuid) : List DeckSummary :=
  ((store.decks.values.filter fun deck => deck.owner = owner).map fun deck =>
    ⟨deck, store.deckTotal deck.id⟩).mergeSort newestFirst

/-- Deck entries by zone, then by card. -/
def byZone (left right : DeckEntry) : Bool :=
  left.zone.rank < right.zone.rank ||
    (left.zone = right.zone && left.card.rank ≤ right.card.rank)

/-- The entries of a deck in order. -/
def entriesOf (store : Store) (deck : Uuid) : List DeckEntry :=
  (store.entries.values.filter fun entry => entry.deck = deck).mergeSort byZone

/-- A page of an ordered listing together with its length. -/
def pageOf {α : Type} (search : Search) (items : List α) : Page α :=
  ⟨search.page items, items.length⟩

end Store

end CardInventory.Memory
