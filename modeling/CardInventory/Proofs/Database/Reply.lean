import CardInventory.Proofs.Database.Access

/-!
# Replies by key

Rows that hold a record, from which the record can be read back. A server that replies
with such rows to the statements that lock them answers by key.
-/

namespace CardInventory.Database

open Storage

namespace Row

/-- The row of a binder entry. -/
def ofBinderEntry (entry : BinderEntry) : Row :=
  [("user_id", .uuid entry.user), ("card_id", .uuid entry.card),
    ("quantity", .integer entry.quantity), ("updated_at", .instant entry.updatedAt)]

/-- The row of a deck entry. -/
def ofDeckEntry (entry : DeckEntry) : Row :=
  [("deck_id", .uuid entry.deck), ("card_id", .uuid entry.card), ("zone", .text entry.zone.name),
    ("quantity", .integer entry.quantity), ("updated_at", .instant entry.updatedAt)]

/-- The row of a deck. -/
def ofDeck (deck : Deck) : Row :=
  [("id", .uuid deck.id), ("owner_id", .uuid deck.owner), ("name", .text deck.name),
    ("format", .text deck.format), ("capacity", deck.capacity.elim .null .integer),
    ("notes", deck.notes.elim .null .text), ("created_at", .instant deck.createdAt),
    ("updated_at", .instant deck.updatedAt)]

/-- The row of a printing, which says nothing of its faces. -/
def ofCard (card : Card) : Row :=
  [("id", .uuid card.id), ("name", .text card.name), ("set_code", card.setCode.elim .null .text),
    ("collector_number", card.collectorNumber.elim .null .text),
    ("rarity", card.rarity.elim .null .text), ("layout", card.layout.elim .null .text),
    ("created_at", .instant card.createdAt)]

/-- The row of a face and the printing it belongs to. -/
def ofFace (owned : Uuid × Face) : Row :=
  [("card_id", .uuid owned.1), ("face_index", .integer owned.2.index),
    ("name", .text owned.2.name), ("mana_cost", owned.2.manaCost.elim .null .text),
    ("cmc", owned.2.manaValue.elim .null .real), ("type_line", owned.2.typeLine.elim .null .text),
    ("oracle_text", owned.2.rulesText.elim .null .text), ("colors", .texts owned.2.colors),
    ("power", owned.2.power.elim .null .text), ("toughness", owned.2.toughness.elim .null .text),
    ("image_url", owned.2.imageUrl.elim .null .text)]

theorem binderEntry_ofBinderEntry {entry : BinderEntry}
    (fits : quantityFits entry.quantity = true) :
    (ofBinderEntry entry).binderEntry = .ok entry := by
  simp [binderEntry, ofBinderEntry, required, cell?, Cell.uuid?, Cell.int32?, Cell.instant?, fits,
    bind, Except.bind, pure, Except.pure]

theorem deckEntry_ofDeckEntry {entry : DeckEntry} (fits : quantityFits entry.quantity = true) :
    (ofDeckEntry entry).deckEntry = .ok entry := by
  simp [deckEntry, ofDeckEntry, required, cell?, Cell.uuid?, Cell.int32?, Cell.instant?, Cell.zone?,
    Cell.text?, fits, bind, Except.bind, pure, Except.pure]

theorem deck_ofDeck {deck : Deck}
    (fits : ∀ limit, deck.capacity = some limit → quantityFits limit = true) :
    (ofDeck deck).deck = .ok deck := by
  rcases deck with ⟨⟨owner, name, format, capacity, notes⟩, id, createdAt, updatedAt⟩
  cases capacity <;> cases notes <;>
    simp_all [Row.deck, ofDeck, required, nullable, cell?, Cell.uuid?, Cell.int32?, Cell.instant?,
      Cell.text?, bind, Except.bind, pure, Except.pure, Except.map]

/-- A column whose value may be missing gives back what was written to it. -/
theorem nullable_elim {α : Type} {row : Row} {column : String} {write : α → Cell}
    {read : Cell → Option α} {value : Option α}
    (written : row.cell? column = some (value.elim .null write))
    (reads : ∀ value, read (write value) = some value) (filled : ∀ value, write value ≠ .null) :
    row.nullable column read = .ok value := by
  cases value with
  | none => rw [nullable, written]; rfl
  | some value =>
      rw [Option.elim_some] at written
      rw [nullable, written]
      cases shape : write value with
      | null => exact absurd shape (filled value)
      | _ =>
          have readable : row.required column read = .ok value := by
            rw [required, written, Option.bind_some, reads]
          simp only [readable]
          rfl

/-- A text that may be missing is read back. -/
theorem nullable_text {row : Row} {column : String} {value : Option String}
    (written : row.cell? column = some (value.elim .null .text)) :
    row.nullable column Cell.text? = .ok value :=
  nullable_elim written (fun _ => rfl) (fun _ empty => by cases empty)

theorem card_ofCard (card : Card) : (ofCard card).card = .ok { card with faces := [] } := by
  have setCode : (ofCard card).nullable "set_code" Cell.text? = .ok card.setCode :=
    nullable_text rfl
  have number : (ofCard card).nullable "collector_number" Cell.text? = .ok card.collectorNumber :=
    nullable_text rfl
  have rarity : (ofCard card).nullable "rarity" Cell.text? = .ok card.rarity := nullable_text rfl
  have layout : (ofCard card).nullable "layout" Cell.text? = .ok card.layout := nullable_text rfl
  rw [Row.card, setCode, number, rarity, layout]
  rfl

theorem face_ofFace {owned : Uuid × Face} (fits : quantityFits owned.2.index = true) :
    (ofFace owned).face = .ok owned := by
  have index : (ofFace owned).required "face_index" Cell.int32? = .ok owned.2.index := by
    have read : Cell.int32? (.integer owned.2.index) = some owned.2.index := if_pos fits
    have written : (ofFace owned).cell? "face_index" = some (.integer owned.2.index) := rfl
    rw [required, written, Option.bind_some, read]
  have manaCost : (ofFace owned).nullable "mana_cost" Cell.text? = .ok owned.2.manaCost :=
    nullable_text rfl
  have manaValue : (ofFace owned).nullable "cmc" Cell.real? = .ok owned.2.manaValue := by
    have written : (ofFace owned).cell? "cmc" = some (owned.2.manaValue.elim .null .real) := rfl
    exact nullable_elim written (fun _ => rfl) (fun _ empty => by cases empty)
  have typeLine : (ofFace owned).nullable "type_line" Cell.text? = .ok owned.2.typeLine :=
    nullable_text rfl
  have rulesText : (ofFace owned).nullable "oracle_text" Cell.text? = .ok owned.2.rulesText :=
    nullable_text rfl
  have power : (ofFace owned).nullable "power" Cell.text? = .ok owned.2.power := nullable_text rfl
  have toughness : (ofFace owned).nullable "toughness" Cell.text? = .ok owned.2.toughness :=
    nullable_text rfl
  have imageUrl : (ofFace owned).nullable "image_url" Cell.text? = .ok owned.2.imageUrl :=
    nullable_text rfl
  rw [Row.face, index, manaCost, manaValue, typeLine, rulesText, power, toughness, imageUrl]
  rfl

end Row

/-- Rows that can each be read back are read back together. -/
theorem Outcome.all_rows_map {α : Type} {write : α → Row} {read : Row → Except Storage.Fault α}
    {records : List α} (readable : ∀ record ∈ records, read (write record) = .ok record) :
    (Outcome.rows (records.map write)).all read = .ok records := by
  rw [Outcome.all, Outcome.rowList]
  induction records with
  | nil => rfl
  | cons record rest ih =>
      rw [List.map_cons, List.mapM_cons, readable record List.mem_cons_self,
        ih fun other member => readable other (List.mem_cons_of_mem _ member)]
      rfl

end CardInventory.Database
