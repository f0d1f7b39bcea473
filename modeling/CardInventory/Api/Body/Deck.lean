import CardInventory.Inventory.Operation
import CardInventory.Json.Format

/-!
# Bodies of decks

Decks as JSON. A deck with its number of copies and a deck with its entries hold
the fields of the deck beside one of their own.
-/

namespace CardInventory.Api

open CardInventory.Inventory CardInventory.Json CardInventory.Ledger

/-- Zones. -/
def zone : Format Zone :=
  .choice Zone.named? Zone.name

/-- Decks a user asks for. -/
def deckProposal : Format DeckProposal :=
  .record
    (.cons (.required "owner_id" .uuid) <|
     .cons (.required "name" .text) <|
     .cons (.required "format" .text) <|
     .cons (.optional "capacity" .int32) <|
     .cons (.withDefault "unlimited" .flag false) <|
     .cons (.optional "notes" .text) .nil)
    (fun (owner, name, format, capacity, unlimited, notes, _) =>
      ⟨owner, name, format, capacity, unlimited, notes⟩)
    (fun deck =>
      (deck.owner, deck.name, deck.format, deck.capacity, deck.unlimited, deck.notes, ()))

/-- Changes of a deck. A field that stays as it is need not be written. -/
def deckPatch : Format DeckPatch :=
  .record
    (.cons (.optional "name" .text) <|
     .cons (.optional "format" .text) <|
     .cons (.patch "notes" .text) <|
     .cons (.patch "capacity" .int32) .nil)
    (fun (name, format, notes, capacity, _) => ⟨name, format, notes, capacity⟩)
    (fun patch => (patch.name, patch.format, patch.notes, patch.capacity, ()))

/-- The fields of a deck. -/
def deckFields : Fields
    [Uuid, Uuid, String, String, Option Int, Option String, Instant, Instant] :=
  .cons (.required "id" .uuid) <|
  .cons (.required "owner_id" .uuid) <|
  .cons (.required "name" .text) <|
  .cons (.required "format" .text) <|
  .cons (.optional "capacity" .int32) <|
  .cons (.optional "notes" .text) <|
  .cons (.required "created_at" .instant) <|
  .cons (.required "updated_at" .instant) .nil

/-- The deck with the given fields. -/
def deckOfRow : Row [Uuid, Uuid, String, String, Option Int, Option String, Instant, Instant] → Deck
  | (id, owner, name, format, capacity, notes, createdAt, updatedAt, _) =>
      ⟨⟨owner, name, format, capacity, notes⟩, id, createdAt, updatedAt⟩

/-- The fields of a deck. -/
def rowOfDeck (deck : Deck) :
    Row [Uuid, Uuid, String, String, Option Int, Option String, Instant, Instant] :=
  (deck.id, deck.owner, deck.name, deck.format, deck.capacity, deck.notes, deck.createdAt,
    deck.updatedAt, ())

/-- Decks. -/
def deck : Format Deck :=
  .record deckFields deckOfRow rowOfDeck

/-- Decks with their numbers of copies. -/
def deckSummary : Format DeckSummary :=
  .flattened deckFields (.cons (.required "card_count" .int64) .nil)
    (fun deck (count, _) => ⟨deckOfRow deck, count⟩)
    (fun summary => (rowOfDeck summary.deck, (summary.cardCount, ())))

/-- A deck entry inside a body: its deck is known and its time is not shown. -/
structure EntryBody where
  card : Uuid
  zone : Zone
  quantity : Int
  deriving DecidableEq

/-- What a body shows of a deck entry. -/
def EntryBody.ofEntry (entry : DeckEntry) : EntryBody :=
  ⟨entry.card, entry.zone, entry.quantity⟩

/-- Deck entries. -/
def deckEntry : Format EntryBody :=
  .record
    (.cons (.required "card_id" .uuid) <|
     .cons (.required "zone" zone) <|
     .cons (.required "quantity" .int32) .nil)
    (fun (card, zone, quantity, _) => ⟨card, zone, quantity⟩)
    (fun entry => (entry.card, entry.zone, entry.quantity, ()))

/-- A deck with its entries inside a body. -/
structure DetailBody where
  deck : Deck
  entries : List EntryBody
  deriving DecidableEq

/-- What a body shows of a deck with its entries. -/
def DetailBody.ofDetail (detail : DeckDetail) : DetailBody :=
  ⟨detail.deck, detail.entries.map EntryBody.ofEntry⟩

/-- Decks with their entries. -/
def deckDetail : Format DetailBody :=
  .flattened deckFields (.cons (.required "entries" (.list deckEntry)) .nil)
    (fun deck (entries, _) => ⟨deckOfRow deck, entries⟩)
    (fun detail => (rowOfDeck detail.deck, (detail.entries, ())))

/-- Totals of a deck. -/
def deckTotals (totals : DeckTotals) : Json :=
  .object
    [("deck_id", .text totals.deck.text), ("main", .integer totals.main),
      ("sideboard", .integer totals.sideboard), ("total", .integer totals.total),
      ("capacity", .ofInteger? totals.capacity)]

/-- Decks that have been deleted, and what went back to the binder. -/
def releasedDeck (released : ReleasedDeck) : Json :=
  .object
    [("deck_id", .text released.deck.id.text),
      ("returned", .array (released.returned.map fun (card, quantity) =>
        .object [("card_id", .text card.text), ("quantity", .integer quantity)]))]

end CardInventory.Api
