import CardInventory.Catalog.Card
import CardInventory.Json.Format
import CardInventory.Text.Blank

/-!
# Bodies of the card catalog

Printings as JSON. The faces of a body carry no index: they are numbered in the
order in which they stand.
-/

namespace CardInventory.Api

open CardInventory.Json

/-- Number faces from zero. -/
def numberFaces (faces : List Face) : List Face :=
  faces.zipIdx.map fun (face, index) => { face with index := index }

/-- The fields of a face. -/
def faceFields : Fields
    [String, Option String, Option Float, Option String, Option String, List String,
      Option String, Option String, Option String] :=
  .cons (.required "name" .text) <|
  .cons (.optional "mana_cost" .text) <|
  .cons (.optional "cmc" .real) <|
  .cons (.optional "type_line" .text) <|
  .cons (.optional "oracle_text" .text) <|
  .cons (.withDefault "colors" (.list .text) []) <|
  .cons (.optional "power" .text) <|
  .cons (.optional "toughness" .text) <|
  .cons (.optional "image_url" .text) .nil

/-- Faces. -/
def face : Format Face :=
  .record faceFields
    (fun (name, manaCost, manaValue, typeLine, rulesText, colors, power, toughness, imageUrl, _) =>
      ⟨0, name, manaCost, manaValue, typeLine, rulesText, colors, power, toughness, imageUrl⟩)
    (fun face =>
      (face.name, face.manaCost, face.manaValue, face.typeLine, face.rulesText, face.colors,
        face.power, face.toughness, face.imageUrl, ()))

/-- Printings that are to be registered. -/
def cardDraft : Format CardDraft :=
  .record
    (.cons (.required "id" .uuid) <|
     .cons (.required "name" .text) <|
     .cons (.optional "set_code" .text) <|
     .cons (.optional "collector_number" .text) <|
     .cons (.optional "rarity" .text) <|
     .cons (.optional "layout" .text) <|
     .cons (.required "faces" (.list face)) .nil)
    (fun (id, name, setCode, collectorNumber, rarity, layout, faces, _) =>
      ⟨id, name, setCode, collectorNumber, rarity, layout, numberFaces faces⟩)
    (fun card =>
      (card.id, card.name, card.setCode, card.collectorNumber, card.rarity, card.layout,
        card.faces, ()))

/-- A printing to be registered, with its name trimmed. -/
def tidyCard (draft : CardDraft) : CardDraft :=
  { draft with name := Text.trim draft.name }

/-- Registered printings. -/
def card : Format Card :=
  .record
    (.cons (.required "id" .uuid) <|
     .cons (.required "name" .text) <|
     .cons (.optional "set_code" .text) <|
     .cons (.optional "collector_number" .text) <|
     .cons (.optional "rarity" .text) <|
     .cons (.optional "layout" .text) <|
     .cons (.required "faces" (.list face)) <|
     .cons (.required "created_at" .instant) .nil)
    (fun (id, name, setCode, collectorNumber, rarity, layout, faces, createdAt, _) =>
      ⟨⟨id, name, setCode, collectorNumber, rarity, layout, numberFaces faces⟩, createdAt⟩)
    (fun card =>
      (card.id, card.name, card.setCode, card.collectorNumber, card.rarity, card.layout,
        card.faces, card.createdAt, ()))

end CardInventory.Api
