import CardInventory.Catalog.Filter
import CardInventory.Collection.Deck
import CardInventory.Collection.User
import CardInventory.Database.Criteria

/-!
# Statements

The statements that are sent to the database, with what they are about, and what
is written for each. A statement that locks keeps the rows it reads from other
transactions until its own ends.
-/

namespace CardInventory.Database

/-- A statement over the tables of the inventory. -/
inductive Statement where
  | cardExists (id : Uuid)
  | cardById (id : Uuid)
  | cardsByIds (ids : List Uuid)
  | searchCards (search : Search)
  | countCards (filter : Filter)
  | facesOf (cards : List Uuid)
  | insertCard (draft : CardDraft)
  | insertFace (card : Uuid) (face : Face)
  | userExists (id : Uuid)
  | userById (id : Uuid)
  | usersByIds (ids : List Uuid)
  | insertUser (id : Uuid) (draft : UserDraft)
  | lockBinderEntry (user card : Uuid)
  | addToBinder (user card : Uuid) (quantity : Int)
  | setInBinder (user card : Uuid) (quantity : Int)
  | deleteFromBinder (user card : Uuid)
  | listBinder (user : Uuid) (search : Search)
  | countBinder (user : Uuid) (filter : Filter)
  | deckById (id : Uuid)
  | decksByIds (ids : List Uuid)
  | lockDecks (ids : List Uuid)
  | decksOfOwner (owner : Uuid)
  | insertDeck (id : Uuid) (draft : DeckDraft)
  | updateDeck (id : Uuid) (patch : DeckPatch)
  | deleteDeck (id : Uuid)
  | entriesOfDeck (deck : Uuid)
  | lockDeckEntry (deck card : Uuid) (zone : Zone)
  | addToDeck (deck card : Uuid) (zone : Zone) (quantity : Int)
  | setInDeck (deck card : Uuid) (zone : Zone) (quantity : Int)
  | deleteFromDeck (deck card : Uuid) (zone : Zone)
  | clearDeck (deck : Uuid)
  | totalInDeck (deck : Uuid)

namespace Statement

/-- The columns of a user. -/
def userColumns : String :=
  "id, username, email, created_at"

/-- The columns of a printing, its faces aside. -/
def cardColumns : String :=
  "id, name, set_code, collector_number, rarity, layout, created_at"

/-- The columns of a face. -/
def faceColumns : String :=
  "card_id, face_index, name, mana_cost, cmc, type_line, oracle_text, colors, power, toughness, " ++
    "image_url"

/-- The columns of a binder entry. -/
def binderColumns : String :=
  "user_id, card_id, quantity, updated_at"

/-- The columns of a deck. -/
def deckColumns : String :=
  "id, owner_id, name, format, capacity, notes, created_at, updated_at"

/-- The columns of a deck entry. -/
def entryColumns : String :=
  "deck_id, card_id, zone, quantity, updated_at"

/-- The value of a zone. -/
def zoneValue (zone : Zone) : Value :=
  .text zone.name

/-- The pieces that cut a page out of an ordered listing. -/
def paging (order : String) (search : Search) : List Piece :=
  [.words (" ORDER BY " ++ order ++ " OFFSET "), .bound (.integer search.skip),
    .words " LIMIT ", .bound (.integer search.limit)]

/-- The values of a face that is to be inserted. -/
def faceValues (card : Uuid) (face : Face) : List Value :=
  [.uuid card, .integer face.index, .text face.name, .ofText? face.manaCost,
    .ofReal? face.manaValue, .ofText? face.typeLine, .ofText? face.rulesText, .texts face.colors,
    .ofText? face.power, .ofText? face.toughness, .ofText? face.imageUrl]

/-- The values of a change of a deck: whether the notes and the capacity are to be set
comes before what they are to be set to. -/
def patchValues (id : Uuid) (patch : DeckPatch) : List Value :=
  [.uuid id, .ofText? patch.name, .ofText? patch.format,
    .flag patch.notes.isSome, .ofText? patch.notes.join,
    .flag patch.capacity.isSome, .ofInteger? patch.capacity.join]

/-- What is written for a statement. -/
def written : Statement → Written
  | cardExists id => ⟨"SELECT EXISTS(SELECT 1 FROM cards WHERE id = $1)", [.uuid id]⟩
  | cardById id => ⟨s!"SELECT {cardColumns} FROM cards WHERE id = $1", [.uuid id]⟩
  | cardsByIds ids => ⟨s!"SELECT {cardColumns} FROM cards WHERE id = ANY($1)", [.uuids ids]⟩
  | searchCards search =>
      .ofPieces <| .words s!"SELECT {cardColumns} FROM cards c WHERE 1=1" ::
        criteria search.filter ++ paging "c.name, c.id" search
  | countCards filter =>
      .ofPieces <| .words "SELECT COUNT(*) FROM cards c WHERE 1=1" :: criteria filter
  | facesOf cards =>
      ⟨s!"SELECT {faceColumns} FROM card_faces WHERE card_id = ANY($1) ORDER BY card_id, face_index",
        [.uuids cards]⟩
  | insertCard draft =>
      ⟨"INSERT INTO cards (id, name, set_code, collector_number, rarity, layout) " ++
          "VALUES ($1, $2, $3, $4, $5, $6) RETURNING " ++ cardColumns,
        [.uuid draft.id, .text draft.name, .ofText? draft.setCode, .ofText? draft.collectorNumber,
          .ofText? draft.rarity, .ofText? draft.layout]⟩
  | insertFace card face =>
      ⟨s!"INSERT INTO card_faces ({faceColumns}) " ++
          "VALUES ($1, $2, $3, $4, $5, $6, $7, $8, $9, $10, $11)", faceValues card face⟩
  | userExists id => ⟨"SELECT EXISTS(SELECT 1 FROM users WHERE id = $1)", [.uuid id]⟩
  | userById id => ⟨s!"SELECT {userColumns} FROM users WHERE id = $1", [.uuid id]⟩
  | usersByIds ids => ⟨s!"SELECT {userColumns} FROM users WHERE id = ANY($1)", [.uuids ids]⟩
  | insertUser id draft =>
      ⟨s!"INSERT INTO users (id, username, email) VALUES ($1, $2, $3) RETURNING {userColumns}",
        [.uuid id, .text draft.username, .ofText? draft.email]⟩
  | lockBinderEntry user card =>
      ⟨s!"SELECT {binderColumns} FROM binder_entries " ++
          "WHERE user_id = $1 AND card_id = $2 FOR UPDATE", [.uuid user, .uuid card]⟩
  | addToBinder user card quantity =>
      ⟨"INSERT INTO binder_entries (user_id, card_id, quantity) VALUES ($1, $2, $3) " ++
          "ON CONFLICT (user_id, card_id) " ++
          "DO UPDATE SET quantity = binder_entries.quantity + EXCLUDED.quantity, " ++
          s!"updated_at = NOW() RETURNING {binderColumns}",
        [.uuid user, .uuid card, .integer quantity]⟩
  | setInBinder user card quantity =>
      ⟨"UPDATE binder_entries SET quantity = $3, updated_at = NOW() " ++
          s!"WHERE user_id = $1 AND card_id = $2 RETURNING {binderColumns}",
        [.uuid user, .uuid card, .integer quantity]⟩
  | deleteFromBinder user card =>
      ⟨"DELETE FROM binder_entries WHERE user_id = $1 AND card_id = $2", [.uuid user, .uuid card]⟩
  | listBinder user search =>
      .ofPieces <| binderQuery "SELECT b.card_id, b.quantity, c.name, c.set_code, c.rarity" user
        search.filter ++ paging "c.name, b.card_id" search
  | countBinder user filter => .ofPieces (binderQuery "SELECT COUNT(*)" user filter)
  | deckById id => ⟨s!"SELECT {deckColumns} FROM decks WHERE id = $1", [.uuid id]⟩
  | decksByIds ids => ⟨s!"SELECT {deckColumns} FROM decks WHERE id = ANY($1)", [.uuids ids]⟩
  | lockDecks ids =>
      ⟨s!"SELECT {deckColumns} FROM decks WHERE id = ANY($1) ORDER BY id FOR UPDATE", [.uuids ids]⟩
  | decksOfOwner owner =>
      ⟨"SELECT d.id, d.owner_id, d.name, d.format, d.capacity, d.notes, d.created_at, " ++
          "d.updated_at, COALESCE(SUM(e.quantity), 0)::BIGINT AS card_count FROM decks d " ++
          "LEFT JOIN deck_entries e ON e.deck_id = d.id WHERE d.owner_id = $1 GROUP BY d.id " ++
          "ORDER BY d.created_at DESC, d.id", [.uuid owner]⟩
  | insertDeck id draft =>
      ⟨"INSERT INTO decks (id, owner_id, name, format, capacity, notes) " ++
          s!"VALUES ($1, $2, $3, $4, $5, $6) RETURNING {deckColumns}",
        [.uuid id, .uuid draft.owner, .text draft.name, .text draft.format,
          .ofInteger? draft.capacity, .ofText? draft.notes]⟩
  | updateDeck id patch =>
      ⟨"UPDATE decks SET name = COALESCE($2, name), format = COALESCE($3, format), " ++
          "notes = CASE WHEN $4 THEN $5 ELSE notes END, " ++
          "capacity = CASE WHEN $6 THEN $7 ELSE capacity END, updated_at = NOW() " ++
          s!"WHERE id = $1 RETURNING {deckColumns}", patchValues id patch⟩
  | deleteDeck id => ⟨"DELETE FROM decks WHERE id = $1", [.uuid id]⟩
  | entriesOfDeck deck =>
      ⟨s!"SELECT {entryColumns} FROM deck_entries WHERE deck_id = $1 ORDER BY zone, card_id",
        [.uuid deck]⟩
  | lockDeckEntry deck card zone =>
      ⟨s!"SELECT {entryColumns} FROM deck_entries " ++
          "WHERE deck_id = $1 AND card_id = $2 AND zone = $3 FOR UPDATE",
        [.uuid deck, .uuid card, zoneValue zone]⟩
  | addToDeck deck card zone quantity =>
      ⟨"INSERT INTO deck_entries (deck_id, card_id, zone, quantity) VALUES ($1, $2, $3, $4) " ++
          "ON CONFLICT (deck_id, card_id, zone) " ++
          "DO UPDATE SET quantity = deck_entries.quantity + EXCLUDED.quantity, " ++
          s!"updated_at = NOW() RETURNING {entryColumns}",
        [.uuid deck, .uuid card, zoneValue zone, .integer quantity]⟩
  | setInDeck deck card zone quantity =>
      ⟨"UPDATE deck_entries SET quantity = $4, updated_at = NOW() " ++
          s!"WHERE deck_id = $1 AND card_id = $2 AND zone = $3 RETURNING {entryColumns}",
        [.uuid deck, .uuid card, zoneValue zone, .integer quantity]⟩
  | deleteFromDeck deck card zone =>
      ⟨"DELETE FROM deck_entries WHERE deck_id = $1 AND card_id = $2 AND zone = $3",
        [.uuid deck, .uuid card, zoneValue zone]⟩
  | clearDeck deck => ⟨"DELETE FROM deck_entries WHERE deck_id = $1", [.uuid deck]⟩
  | totalInDeck deck =>
      ⟨"SELECT COALESCE(SUM(quantity), 0)::BIGINT FROM deck_entries WHERE deck_id = $1",
        [.uuid deck]⟩

end Statement

end CardInventory.Database
