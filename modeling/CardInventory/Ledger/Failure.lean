import CardInventory.Storage.Fault
import CardInventory.Zone

/-!
# Failures of the ledger

The causes for which an operation on the inventory is refused, and their texts.
A rule reports the first cause it meets, and an operation that is made of others
reports theirs unchanged.
-/

namespace CardInventory.Ledger

/-- What was not found. -/
inductive Subject where
  | user
  | card
  | deck
  | binderEntry
  | deckEntry
  deriving DecidableEq, Repr

/-- The name of a subject in messages. -/
def Subject.name : Subject → String
  | user => "User"
  | card => "Card"
  | deck => "Deck"
  | binderEntry => "Binder entry"
  | deckEntry => "Deck entry"

/-- Why an argument is invalid. -/
inductive Reason where
  | quantityNotPositive (quantity : Int)
  | holdingCannotGrow (current quantity : Int)
  | entryCannotGrow (current quantity : Int)
  | sameDeck
  | differentOwners
  | alreadyInZone (zone : Zone)
  | blankUsername
  | blankCardName
  | noFaces
  | blankDeckName
  | blankDeckFormat
  | capacityTooLow (capacity : Int)
  /-- A reason in the words of a caller that composes operations of its own. -/
  | stated (text : String)
  deriving DecidableEq, Repr

/-- The text of a reason. -/
def Reason.message : Reason → String
  | quantityNotPositive quantity => s!"Quantity must be positive, got {quantity}"
  | holdingCannotGrow current quantity => s!"Holding of {current} cannot grow by {quantity}"
  | entryCannotGrow current quantity => s!"Entry of {current} cannot grow by {quantity}"
  | sameDeck => "Source and destination decks must differ"
  | differentOwners => "Cards can only be transferred between decks of the same owner"
  | alreadyInZone zone => s!"Card is already in the {zone} zone"
  | blankUsername => "Username must not be blank"
  | blankCardName => "Card name must not be blank"
  | noFaces => "A card printing needs at least one face"
  | blankDeckName => "Deck name must not be blank"
  | blankDeckFormat => "Deck format must not be blank"
  | capacityTooLow capacity => s!"Deck capacity must be at least 1, got {capacity}"
  | stated text => text

/-- Why an operation is refused. -/
inductive Failure where
  | notFound (subject : Subject) (key : String)
  | invalid (reason : Reason)
  | insufficient (held wanted : Int)
  | overCapacity (current limit attempted : Int)
  | storage (fault : Storage.Fault)
  deriving DecidableEq, Repr

/-- The text of a failure. -/
def Failure.message : Failure → String
  | notFound subject key => s!"{subject.name} {key} not found"
  | invalid reason => reason.message
  | insufficient held wanted => s!"Insufficient quantity: have {held}, want {wanted}"
  | overCapacity current limit attempted =>
      s!"Deck capacity exceeded: current {current}, limit {limit}, attempted add {attempted}"
  | storage fault => fault.message

end CardInventory.Ledger
