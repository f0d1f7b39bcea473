import CardInventory.Api.Body.Card
import CardInventory.Api.Body.Movement
import CardInventory.Proofs.Uuid

/-!
# What bodies say

A client takes from a body what stands under the names it knows: identifiers and zones as
texts, numbers of copies as whole numbers. What a body says is stated here by these names
alone, whatever has written it, and for each body that tells of copies, of a printing or of
a listed holding there is a lemma on what the service writes.
-/

namespace CardInventory

namespace Json

/-- The text under a name in an object. -/
def textAt? (tree : Json) (name : String) : Option String :=
  (tree.member? name).bind text?

/-- The whole number under a name in an object. -/
def integerAt? (tree : Json) (name : String) : Option Int :=
  (tree.member? name).bind integer?

/-- The items of the list under a name in an object. -/
def itemsAt (tree : Json) (name : String) : List Json :=
  (tree.member? name).elim [] items

end Json

namespace Api

open Inventory Ledger

/-! ## Copies -/

/-- A body says how many copies of a card a user holds. -/
structure SaysHolding (user card : Uuid) (quantity : Int) (tree : Json) : Prop where
  user : tree.textAt? "user_id" = some user.text
  card : tree.textAt? "card_id" = some card.text
  quantity : tree.integerAt? "quantity" = some quantity

/-- A body says how many copies of a card are in a zone. -/
structure SaysEntry (card : Uuid) (zone : Zone) (quantity : Int) (tree : Json) : Prop where
  card : tree.textAt? "card_id" = some card.text
  zone : tree.textAt? "zone" = some zone.name
  quantity : tree.integerAt? "quantity" = some quantity

/-- A body says how many copies are left in a zone. -/
structure SaysRemaining (zone : Zone) (remaining : Int) (tree : Json) : Prop where
  zone : tree.textAt? "zone" = some zone.name
  remaining : tree.integerAt? "remaining" = some remaining

/-- A body says what a deck that is gone has returned: so many copies of each of these cards. -/
structure SaysReturned (deck : Uuid) (returned : List (Uuid × Int)) (tree : Json) : Prop where
  deck : tree.textAt? "deck_id" = some deck.text
  returned : (tree.itemsAt "returned").map
      (fun item => (item.textAt? "card_id", item.integerAt? "quantity")) =
    returned.map fun (card, quantity) => (some card.text, some quantity)

theorem saysHolding_binderQuantity (user card : Uuid) (quantity : Int) :
    SaysHolding user card quantity (binderQuantity user card quantity) :=
  ⟨rfl, rfl, rfl⟩

theorem saysEntry_filledEntry (entry : DeckEntry) :
    SaysEntry entry.card entry.zone entry.quantity (filledEntry entry) :=
  ⟨rfl, rfl, rfl⟩

theorem saysRemaining_removal (removal : Removal) :
    SaysRemaining removal.zone removal.quantity (Api.removal removal) :=
  ⟨rfl, rfl⟩

theorem saysReturned_releasedDeck (released : ReleasedDeck) :
    SaysReturned released.deck.id released.returned (releasedDeck released) where
  deck := rfl
  returned := by
    have items : (releasedDeck released).itemsAt "returned" =
        released.returned.map fun (card, quantity) =>
          .object [("card_id", .text card.text), ("quantity", .integer quantity)] := rfl
    rw [items, List.map_map]
    rfl

/-! ## The entries of a deck -/

/-- Whether an entry is one of a card in a zone. -/
def isFor (card : Uuid) (zone : Zone) (entry : Json) : Bool :=
  entry.textAt? "card_id" == some card.text && entry.textAt? "zone" == some zone.name

/-- The numbers of copies of a card in a zone that the entries of a body tell of. -/
def copiesTold (card : Uuid) (zone : Zone) (tree : Json) : List (Option Int) :=
  ((tree.itemsAt "entries").filter (isFor card zone)).map fun entry =>
    entry.integerAt? "quantity"

/-- The body of a deck has one entry of a card in a zone, with its number of copies, or none
where this number is zero. -/
def SaysPlaced (card : Uuid) (zone : Zone) (quantity : Int) (tree : Json) : Prop :=
  copiesTold card zone tree = if quantity = 0 then [] else [some quantity]

theorem isFor_filledEntry (card : Uuid) (zone : Zone) (entry : DeckEntry) :
    isFor card zone (filledEntry entry) =
      decide (entry.card = card ∧ entry.zone = zone) := by
  have cards : entry.card.text = card.text ↔ entry.card = card :=
    ⟨fun same => Uuid.text_injective same, congrArg _⟩
  have zones : entry.zone.name = zone.name ↔ entry.zone = zone := by
    cases entry.zone <;> cases zone <;> decide
  obtain ⟨ownCard, ownZone, -⟩ := saysEntry_filledEntry entry
  rw [isFor, ownCard, ownZone, Bool.eq_iff_iff]
  simp [cards, zones]

theorem copiesTold_ofDetail (card : Uuid) (zone : Zone) (detail : DeckDetail) :
    copiesTold card zone (deckDetail.toTree (.ofDetail detail)) =
      (detail.entries.filter fun entry => entry.card = card ∧ entry.zone = zone).map
        fun entry => some entry.quantity := by
  have entries : (deckDetail.toTree (.ofDetail detail)).itemsAt "entries" =
      (detail.entries.map EntryBody.ofEntry).map deckEntry.toTree := rfl
  have kept : isFor card zone ∘ filledEntry =
      fun entry => decide (entry.card = card ∧ entry.zone = zone) :=
    funext fun entry => by rw [Function.comp_apply, isFor_filledEntry]
  have written : deckEntry.toTree ∘ EntryBody.ofEntry = filledEntry := rfl
  rw [copiesTold, entries, List.map_map, written, List.filter_map, kept, List.map_map]
  rfl

/-! ## Listings -/

end Api

end CardInventory
