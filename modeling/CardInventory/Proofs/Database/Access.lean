import CardInventory.Memory.Table
import CardInventory.Proofs.Database.Trace

/-!
# Rows that statements touch

What a statement does to a row of a binder or of a deck, and which decks it locks or
changes. A statement that does nothing of the kind is quiet: it only reads, or it
stores a new user, printing or deck.
-/

namespace CardInventory.Database

open Memory (BinderKey EntryKey)
open Storage Ledger

/-- Where copies lie: an entry of a binder, or an entry of a zone of a deck. -/
inductive Place where
  | binder (key : BinderKey)
  | zone (key : EntryKey)
  deriving DecidableEq

/-- What a statement does to an entry. -/
inductive Access where
  | lock
  | add (quantity : Int)
  | set (quantity : Int)
  | remove
  deriving DecidableEq

/-- The values that a place is told by. -/
def Place.values : Place → List Value
  | binder key => [.uuid key.user, .uuid key.card]
  | zone key => [.uuid key.deck, .uuid key.card, Statement.zoneValue key.zone]

/-- The quantity, if there is one. -/
def Access.values : Access → List Value
  | lock => []
  | add quantity => [.integer quantity]
  | set quantity => [.integer quantity]
  | remove => []

namespace Statement

/-- The single entry a statement is about, and what it does to it. -/
def access? : Statement → Option (Place × Access)
  | lockBinderEntry user card => some (.binder ⟨user, card⟩, .lock)
  | addToBinder user card quantity => some (.binder ⟨user, card⟩, .add quantity)
  | setInBinder user card quantity => some (.binder ⟨user, card⟩, .set quantity)
  | deleteFromBinder user card => some (.binder ⟨user, card⟩, .remove)
  | lockDeckEntry deck card zone => some (.zone ⟨deck, card, zone⟩, .lock)
  | addToDeck deck card zone quantity => some (.zone ⟨deck, card, zone⟩, .add quantity)
  | setInDeck deck card zone quantity => some (.zone ⟨deck, card, zone⟩, .set quantity)
  | deleteFromDeck deck card zone => some (.zone ⟨deck, card, zone⟩, .remove)
  | _ => none

/-- The decks that a statement locks. -/
def lockedDecks? : Statement → Option (List Uuid)
  | lockDecks ids => some ids
  | _ => none

/-- The deck that a statement changes, or an entry of which it locks or changes. -/
def deck? : Statement → Option Uuid
  | updateDeck id _ => some id
  | deleteDeck id => some id
  | clearDeck deck => some deck
  | lockDeckEntry deck _ _ => some deck
  | addToDeck deck _ _ _ => some deck
  | setInDeck deck _ _ _ => some deck
  | deleteFromDeck deck _ _ => some deck
  | _ => none

/-- Whether a statement neither locks nor changes a deck or an entry. -/
def quiet (statement : Statement) : Bool :=
  statement.access?.isNone && statement.lockedDecks?.isNone && statement.deck?.isNone

variable {statement : Statement}

/-- What is bound to a statement is the key of its entry and the quantity, and nothing else. -/
theorem values_of_access {place : Place} {access : Access}
    (touches : statement.access? = some (place, access)) :
    statement.written.values = place.values ++ access.values := by
  cases statement <;> cases touches <;> rfl

theorem eq_lockDecks {ids : List Uuid} (locks : statement.lockedDecks? = some ids) :
    statement = .lockDecks ids := by
  cases statement <;> cases locks
  rfl

theorem lockedDecks?_of_access {touched : Place × Access}
    (touches : statement.access? = some touched) : statement.lockedDecks? = none := by
  cases statement <;> first
    | rfl
    | cases touches

theorem deck?_of_binder {key : BinderKey} {access : Access}
    (touches : statement.access? = some (.binder key, access)) : statement.deck? = none := by
  cases statement <;> first
    | rfl
    | cases touches

theorem deck?_of_zone {key : EntryKey} {access : Access}
    (touches : statement.access? = some (.zone key, access)) :
    statement.deck? = some key.deck := by
  cases statement <;> cases touches <;> rfl

theorem access?_of_quiet (quiet : statement.quiet = true) : statement.access? = none := by
  simp only [Statement.quiet, Bool.and_eq_true, Option.isNone_iff_eq_none] at quiet
  exact quiet.1.1

theorem lockedDecks?_of_quiet (quiet : statement.quiet = true) : statement.lockedDecks? = none := by
  simp only [Statement.quiet, Bool.and_eq_true, Option.isNone_iff_eq_none] at quiet
  exact quiet.1.2

theorem deck?_of_quiet (quiet : statement.quiet = true) : statement.deck? = none := by
  simp only [Statement.quiet, Bool.and_eq_true, Option.isNone_iff_eq_none] at quiet
  exact quiet.2

end Statement

/-- Whether a row may be replied to a statement: a row that is replied to a statement that locks by
a key carries the key. -/
def Statement.answeredBy (statement : Statement) (row : Row) : Bool :=
  match statement with
  | lockBinderEntry user card =>
      row.binderEntry.toOption.all fun entry => entry.user = user ∧ entry.card = card
  | lockDeckEntry deck card zone =>
      row.deckEntry.toOption.all fun entry =>
        entry.deck = deck ∧ entry.card = card ∧ entry.zone = zone
  | lockDecks ids => row.deck.toOption.all fun deck => deck.id ∈ ids
  | _ => true

/-- What is assumed of a server. -/
def AnswersKey (statement : Statement) (outcome : Outcome) : Prop :=
  ∀ row ∈ outcome.rowList, statement.answeredBy row = true

/-- The first row that is replied is one of the rows. -/
theorem exists_row_of_first? {α : Type} {outcome : Outcome} {read : Row → Except Storage.Fault α}
    {value : α} (readable : outcome.first? read = .ok (some value)) :
    ∃ row ∈ outcome.rowList, read row = .ok value := by
  unfold Outcome.first? at readable
  rcases listed : outcome.rowList with _ | ⟨row, rest⟩
  · rw [listed] at readable
    cases readable
  · rw [listed, List.head?_cons, Option.mapM_some] at readable
    refine ⟨row, List.mem_cons_self, ?_⟩
    cases own : read row with
    | error fault =>
        rw [own] at readable
        cases readable
    | ok other =>
        rw [own] at readable
        cases readable
        rfl

/-- The entry that is replied carries the key it was asked for by. -/
theorem key_of_deckEntry {deck card : Uuid} {zone : Zone} {outcome : Outcome} {entry : DeckEntry}
    (keyed : AnswersKey (.lockDeckEntry deck card zone) outcome)
    (readable : outcome.first? Row.deckEntry = .ok (some entry)) :
    entry.deck = deck ∧ entry.card = card ∧ entry.zone = zone := by
  obtain ⟨row, member, read⟩ := exists_row_of_first? readable
  have answered := keyed row member
  simpa [Statement.answeredBy, read, Except.toOption] using answered

/-- What was said to a statement meets the assumption. -/
def Told.keyed (told : Told) : Bool :=
  match told.verdict with
  | .accepted outcome => outcome.rowList.all told.statement.answeredBy
  | _ => true

/-- Whatever was accepted was answered by its key. -/
def Keyed (trace : Trace) : Prop :=
  ∀ told ∈ trace, told.keyed = true

instance (trace : Trace) : Decidable (Keyed trace) :=
  inferInstanceAs (Decidable (∀ told ∈ trace, told.keyed = true))

theorem Told.keyed_iff {told : Told} :
    told.keyed = true ↔
      ∀ outcome, told.verdict = .accepted outcome → AnswersKey told.statement outcome := by
  rcases told with ⟨statement, verdict⟩
  cases verdict <;> simp [Told.keyed, AnswersKey]

/-- A contract that assumes no more of a server admits what was answered by key. -/
theorem Keyed.admits {contract : Contract} {trace : Trace} (keyed : Keyed trace)
    (assumes : contract.assumes = AnswersKey) : contract.Admits trace := by
  intro told member
  rw [assumes]
  exact Told.keyed_iff.mp (keyed told member)

/-- A trace of quiet statements. -/
def Quiet (trace : Trace) : Prop :=
  ∀ told ∈ trace, told.statement.quiet = true

theorem quiet_nil : Quiet [] := by
  intro told member
  cases member

theorem quiet_singleton {told : Told} : Quiet [told] ↔ told.statement.quiet = true := by
  simp [Quiet]

theorem Quiet.append {first second : Trace} (left : Quiet first) (right : Quiet second) :
    Quiet (first ++ second) :=
  List.forall_mem_append.mpr ⟨left, right⟩

/-- A contract that says nothing of quiet statements. -/
def Contract.Lenient (contract : Contract) : Prop :=
  ∀ ⦃trace statement⦄, statement.quiet = true → contract.permits trace statement

end CardInventory.Database
