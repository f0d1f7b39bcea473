import CardInventory.Catalog.Card
import CardInventory.Collection.Deck
import CardInventory.Collection.User
import CardInventory.Database.Row
import CardInventory.Memory.Table

/-!
# Records in rows

How each record of the inventory is read from a row, and how the faces of a
reply are put in piles and dealt out to the printings they belong to.
-/

namespace CardInventory.Database

open CardInventory.Storage

namespace Row

/-- A user. -/
def user (row : Row) : Except Fault User := do
  return {
    id := ← row.required "id" Cell.uuid?
    username := ← row.required "username" Cell.text?
    email := ← row.nullable "email" Cell.text?
    createdAt := ← row.required "created_at" Cell.instant? }

/-- A printing without its faces. -/
def card (row : Row) : Except Fault Card := do
  return {
    id := ← row.required "id" Cell.uuid?
    name := ← row.required "name" Cell.text?
    setCode := ← row.nullable "set_code" Cell.text?
    collectorNumber := ← row.nullable "collector_number" Cell.text?
    rarity := ← row.nullable "rarity" Cell.text?
    layout := ← row.nullable "layout" Cell.text?
    faces := []
    createdAt := ← row.required "created_at" Cell.instant? }

/-- A face and the printing it belongs to. -/
def face (row : Row) : Except Fault (Uuid × Face) := do
  let card ← row.required "card_id" Cell.uuid?
  return (card, {
    index := ← row.required "face_index" Cell.int32?
    name := ← row.required "name" Cell.text?
    manaCost := ← row.nullable "mana_cost" Cell.text?
    manaValue := ← row.nullable "cmc" Cell.real?
    typeLine := ← row.nullable "type_line" Cell.text?
    rulesText := ← row.nullable "oracle_text" Cell.text?
    colors := ← row.required "colors" Cell.texts?
    power := ← row.nullable "power" Cell.text?
    toughness := ← row.nullable "toughness" Cell.text?
    imageUrl := ← row.nullable "image_url" Cell.text? })

/-- A binder entry. -/
def binderEntry (row : Row) : Except Fault BinderEntry := do
  return {
    user := ← row.required "user_id" Cell.uuid?
    card := ← row.required "card_id" Cell.uuid?
    quantity := ← row.required "quantity" Cell.int32?
    updatedAt := ← row.required "updated_at" Cell.instant? }

/-- A listed binder entry. -/
def listing (row : Row) : Except Fault BinderListing := do
  return {
    card := ← row.required "card_id" Cell.uuid?
    quantity := ← row.required "quantity" Cell.int32?
    name := ← row.required "name" Cell.text?
    setCode := ← row.nullable "set_code" Cell.text?
    rarity := ← row.nullable "rarity" Cell.text? }

/-- A deck. -/
def deck (row : Row) : Except Fault Deck := do
  return {
    id := ← row.required "id" Cell.uuid?
    owner := ← row.required "owner_id" Cell.uuid?
    name := ← row.required "name" Cell.text?
    format := ← row.required "format" Cell.text?
    capacity := ← row.nullable "capacity" Cell.int32?
    notes := ← row.nullable "notes" Cell.text?
    createdAt := ← row.required "created_at" Cell.instant?
    updatedAt := ← row.required "updated_at" Cell.instant? }

/-- A deck with its number of copies. -/
def summary (row : Row) : Except Fault DeckSummary := do
  return ⟨← row.deck, ← row.required "card_count" Cell.int64?⟩

/-- A deck entry. -/
def deckEntry (row : Row) : Except Fault DeckEntry := do
  return {
    deck := ← row.required "deck_id" Cell.uuid?
    card := ← row.required "card_id" Cell.uuid?
    zone := ← row.required "zone" Cell.zone?
    quantity := ← row.required "quantity" Cell.int32?
    updatedAt := ← row.required "updated_at" Cell.instant? }

end Row

/-- The faces that belong to a printing, in the order in which they came. -/
def facesOf (card : Uuid) (faces : List (Uuid × Face)) : List Face :=
  (faces.filter fun face => face.1 = card).map Prod.snd

/-- Faces in piles, one for each printing. -/
abbrev Piles := Memory.Table Uuid (List Face)

namespace Piles

/-- The faces on the pile of a printing, none where it has no pile. -/
def faces (piles : Piles) (card : Uuid) : List Face :=
  (piles.get? card).getD []

/-- Put a face on the pile of its printing, behind those that came before it. -/
def put (piles : Piles) (face : Uuid × Face) : Piles :=
  piles.insert face.1 (piles.faces face.1 ++ [face.2])

/-- The piles of faces that come one after another. -/
def ofFaces (faces : List (Uuid × Face)) : Piles :=
  faces.foldl put ∅

/-- Deal piles out to printings. A printing takes the pile of its identifier away, and
none is left for another row of the same one. -/
def deal : Piles → List Card → List Card
  | _, [] => []
  | piles, card :: rest =>
      { card with faces := piles.faces card.id } :: deal (piles.erase card.id) rest

end Piles

end CardInventory.Database
