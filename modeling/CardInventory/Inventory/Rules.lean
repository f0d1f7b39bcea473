import CardInventory.Inventory.Operation
import CardInventory.Text.Blank

/-!
# The rule of each operation

What an operation checks without storage, and the ledger rule that remains.
Blank names are refused here, and the names of decks are stored without their
blank ends. A new limit of a deck must not lie below the copies already in it.
-/

namespace CardInventory.Inventory

open CardInventory.Ledger CardInventory.Storage CardInventory.Text

/-- A text without its blank ends, which must not be all of it. -/
def nonBlank (text : String) (reason : Reason) : Except Failure String :=
  if isBlankText text then .error (.invalid reason) else .ok (trim text)

/-- A capacity that can be stored. -/
def validCapacity (capacity : Int) : Except Failure Int :=
  if capacity < 1 then .error (.invalid (.capacityTooLow capacity)) else .ok capacity

/-- The capacity a deck gets. -/
def DeckProposal.effectiveCapacity (defaultCapacity : Int) (proposal : DeckProposal) :
    Except Failure (Option Int) :=
  if proposal.unlimited then .ok none
  else
    match proposal.capacity with
    | some capacity => (validCapacity capacity).map some
    | none => .ok (some defaultCapacity)

/-- The deck to be stored for a proposal. -/
def DeckProposal.draft (defaultCapacity : Int) (proposal : DeckProposal) :
    Except Failure DeckDraft := do
  let name ← nonBlank proposal.name .blankDeckName
  let format ← nonBlank proposal.format .blankDeckFormat
  let capacity ← proposal.effectiveCapacity defaultCapacity
  return ⟨proposal.owner, name, format, capacity, proposal.notes⟩

/-- A change of a deck with its names trimmed and its values checked. -/
def checkedPatch (patch : DeckPatch) : Except Failure DeckPatch := do
  let name ← patch.name.mapM (nonBlank · .blankDeckName)
  let format ← patch.format.mapM (nonBlank · .blankDeckFormat)
  let capacity ← patch.capacity.mapM fun capacity => capacity.mapM validCapacity
  return ⟨name, format, patch.notes, capacity⟩

/-- A user that must exist. -/
def ensureUser (id : Uuid) : Ledger Unit := do
  ensure (← ask (.userExists id)) (.notFound .user id.text)

/-- The deck with an identifier, which must exist. -/
def requireDeck (id : Uuid) : Ledger Deck := do
  found (← ask (.findDeck id)) (.notFound .deck id.text)

/-- Make a checked change to a deck. -/
def changeDeck (id : Uuid) (patch : DeckPatch) : Ledger Deck := do
  let _ ← lockDeck id
  match patch.capacity with
  | some limit => do
      let current ← ask (.totalInDeck id)
      Procedure.ofExcept (checkCapacity limit current 0)
  | none => pure ()
  ask (.updateDeck id patch)

/-- The copies in a zone of a deck. -/
def zoneTotal (zone : Zone) (entries : List DeckEntry) : Int :=
  totalOf ((entries.filter fun entry => entry.zone = zone).map DeckEntry.quantity)

/-- The totals of a deck with the given entries. -/
def totalsOf (id : Uuid) (capacity : Option Int) (entries : List DeckEntry) : DeckTotals :=
  let main := zoneTotal .main entries
  let sideboard := zoneTotal .sideboard entries
  ⟨id, main, sideboard, main + sideboard, capacity⟩

/-- The copies in the zones of a deck. -/
def readTotals (id : Uuid) : Ledger DeckTotals := do
  let deck ← requireDeck id
  let entries ← ask (.entriesOfDeck id)
  return totalsOf id deck.capacity entries

/-- The line of an entry in a deck list, with the name of its card. -/
def listLine (cards : List Card) (entry : DeckEntry) : Except Failure ListLine :=
  match rowOf? (fun card => card.id) entry.card cards with
  | some card => .ok ⟨entry.zone, entry.quantity, card.name⟩
  | none => .error (.notFound .card entry.card.text)

/-- The deck list of a deck. -/
def readDeckList (id : Uuid) : Ledger String := do
  let _ ← requireDeck id
  let entries ← ask (.entriesOfDeck id)
  let cards ← ask (.findCards (entries.map DeckEntry.card))
  let lines ← Procedure.ofExcept (entries.mapM (listLine cards))
  return renderDeckList lines

/-- Check the arguments of an operation and give the rule that remains. -/
def Operation.rule (defaultCapacity : Int) :
    (operation : Operation) → Except Failure (Ledger operation.Result)
  | .createUser draft =>
      if isBlankText draft.username then .error (.invalid .blankUsername)
      else .ok (ask (.createUser draft))
  | .getUser id => .ok do
      found (← ask (.findUser id)) (.notFound .user id.text)
  | .registerCard draft =>
      if isBlankText draft.name then .error (.invalid .blankCardName)
      else if draft.faces.isEmpty then .error (.invalid .noFaces)
      else .ok (ask (.createCard draft))
  | .searchCards search => .ok (ask (.searchCards search))
  | .getCard id => .ok do
      found (← ask (.findCard id)) (.notFound .card id.text)
  | .creditBinder user card quantity => .ok (credit user card quantity)
  | .debitBinder user card quantity => .ok (debit user card quantity)
  | .binderQuantity user card => .ok (quantityOf user card)
  | .listBinder user search => .ok do
      ensureUser user
      ask (.listBinder user search)
  | .createDeck proposal => do
      let draft ← proposal.draft defaultCapacity
      return do
        ensureUser draft.owner
        ask (.createDeck draft)
  | .getDeck id => .ok do
      let deck ← requireDeck id
      return ⟨deck, ← ask (.entriesOfDeck id)⟩
  | .listUserDecks owner => .ok do
      ensureUser owner
      ask (.decksOfUser owner)
  | .updateDeck id patch => do
      let patch ← checkedPatch patch
      return changeDeck id patch
  | .deleteDeck id => .ok (releaseDeck id)
  | .deckTotals id => .ok (readTotals id)
  | .exportDeck id => .ok (readDeckList id)
  | .allocate deck card quantity zone => .ok (Ledger.allocate deck card quantity zone)
  | .deallocate deck card quantity zone => .ok (Ledger.deallocate deck card quantity zone)
  | .transfer source destination card quantity zone =>
      .ok (Ledger.transfer source destination card quantity zone)
  | .moveZone deck card quantity source target =>
      .ok (Ledger.moveZone deck card quantity source target)

end CardInventory.Inventory
