import CardInventory.Memory.Answer
import CardInventory.Proofs.Memory.Table

/-!
# Valid tables

What a database schema with keys, references and checks guarantees of the stored
rows is stated here of the tables in memory: every row carries its key, every
reference leads to a row, every number of copies is positive and takes 32 bits,
no name is blank, and no two users share one. Each kind of change that a request
can make keeps the tables valid under the condition the request has checked.
-/

namespace CardInventory

open Text

/-- A number of copies a row may hold. -/
def Storable (quantity : Int) : Prop :=
  1 ≤ quantity ∧ quantity ≤ Width.greatest 32

/-- A deck has a name and a format, and a capacity of at least one if it has any. -/
structure DeckDraft.Sound (draft : DeckDraft) : Prop where
  name : isBlankText draft.name = false
  format : isBlankText draft.format = false
  capacity : ∀ limit, draft.capacity = some limit → 1 ≤ limit

namespace Memory

/-- A valid row of the users. -/
structure UserSound (id : Uuid) (user : User) : Prop where
  keyed : user.id = id
  named : isBlankText user.username = false

/-- A valid binder entry, over the users and the cards it may refer to. -/
structure HoldingSound (users : Table Uuid User) (cards : Table Uuid Card) (key : BinderKey)
    (entry : BinderEntry) : Prop where
  keyed : BinderKey.mk entry.user entry.card = key
  user : users.contains key.user = true
  card : cards.contains key.card = true
  quantity : Storable entry.quantity

/-- A valid deck, over the users that may own it. -/
structure DeckSound (users : Table Uuid User) (id : Uuid) (deck : Deck) : Prop where
  keyed : deck.id = id
  owner : users.contains deck.owner = true
  draft : deck.toDeckDraft.Sound

/-- A valid deck entry, over the decks and the cards it may refer to. -/
structure EntrySound (decks : Table Uuid Deck) (cards : Table Uuid Card) (key : EntryKey)
    (entry : DeckEntry) : Prop where
  keyed : EntryKey.mk entry.deck entry.card entry.zone = key
  deck : decks.contains key.deck = true
  card : cards.contains key.card = true
  quantity : Storable entry.quantity

/-- The tables hold valid rows only, and no two users have one name. -/
structure Store.Valid (store : Store) : Prop where
  users : store.users.Forall UserSound
  usernames : ∀ ⦃left right first second⦄,
    store.users.get? left = some first → store.users.get? right = some second →
      first.username = second.username → left = right
  cards : store.cards.Forall fun id card => card.id = id
  binder : store.binder.Forall (HoldingSound store.users store.cards)
  decks : store.decks.Forall (DeckSound store.users)
  entries : store.entries.Forall (EntrySound store.decks store.cards)

theorem quantityFits_iff {quantity : Int} :
    quantityFits quantity = true ↔ Width.least 32 ≤ quantity ∧ quantity ≤ Width.greatest 32 := by
  simp [quantityFits, Width.fits]

theorem quantityFits_iff_le {quantity : Int} (nonneg : 0 ≤ quantity) :
    quantityFits quantity = true ↔ quantity ≤ Width.greatest 32 := by
  have least : Width.least 32 ≤ 0 := by decide
  rw [quantityFits_iff]
  omega

theorem storable_of_fits {quantity : Int} (positive : 0 < quantity)
    (fits : quantityFits quantity = true) : Storable quantity :=
  ⟨positive, (quantityFits_iff.mp fits).2⟩

theorem HoldingSound.mono {users users' : Table Uuid User} {cards cards' : Table Uuid Card}
    (moreUsers : ∀ id, users.contains id = true → users'.contains id = true)
    (moreCards : ∀ id, cards.contains id = true → cards'.contains id = true)
    (key : BinderKey) (entry : BinderEntry) (sound : HoldingSound users cards key entry) :
    HoldingSound users' cards' key entry :=
  { sound with user := moreUsers _ sound.user, card := moreCards _ sound.card }

theorem DeckSound.mono {users users' : Table Uuid User}
    (moreUsers : ∀ id, users.contains id = true → users'.contains id = true)
    (id : Uuid) (deck : Deck) (sound : DeckSound users id deck) : DeckSound users' id deck :=
  { sound with owner := moreUsers _ sound.owner }

theorem EntrySound.mono {decks decks' : Table Uuid Deck} {cards cards' : Table Uuid Card}
    (moreDecks : ∀ id, decks.contains id = true → decks'.contains id = true)
    (moreCards : ∀ id, cards.contains id = true → cards'.contains id = true)
    (key : EntryKey) (entry : DeckEntry) (sound : EntrySound decks cards key entry) :
    EntrySound decks' cards' key entry :=
  { sound with deck := moreDecks _ sound.deck, card := moreCards _ sound.card }

namespace Store

theorem valid_empty : Store.empty.Valid where
  users := Table.forall_empty _
  usernames left _ _ _ found := by simp [Store.empty] at found
  cards := Table.forall_empty _
  binder := Table.forall_empty _
  decks := Table.forall_empty _
  entries := Table.forall_empty _

namespace Valid

variable {store : Store}

/-! ## Changes of rows -/

theorem insertUser (valid : store.Valid) {id : Uuid} {user : User} (sound : UserSound id user)
    (unused : store.users.Forall fun _ other => other.username ≠ user.username) :
    Valid { store with users := store.users.insert id user } where
  users := valid.users.insert sound
  usernames left right first second foundLeft foundRight same := by
    simp only [Table.get?_insert_eq_ite] at foundLeft foundRight
    split at foundLeft <;> split at foundRight
    · subst left right
      rfl
    · obtain rfl := Option.some.inj foundLeft
      exact absurd same.symm (unused foundRight)
    · obtain rfl := Option.some.inj foundRight
      exact absurd same (unused foundLeft)
    · exact valid.usernames foundLeft foundRight same
  cards := valid.cards
  binder := valid.binder.mono
    (HoldingSound.mono (store.users.contains_insert id user) fun _ present => present)
  decks := valid.decks.mono (DeckSound.mono (store.users.contains_insert id user))
  entries := valid.entries

theorem insertCard (valid : store.Valid) {id : Uuid} {card : Card} (keyed : card.id = id) :
    Valid { store with cards := store.cards.insert id card } where
  users := valid.users
  usernames := valid.usernames
  cards := valid.cards.insert keyed
  binder := valid.binder.mono
    (HoldingSound.mono (fun _ present => present) (store.cards.contains_insert id card))
  decks := valid.decks
  entries := valid.entries.mono
    (EntrySound.mono (fun _ present => present) (store.cards.contains_insert id card))

theorem insertHolding (valid : store.Valid) {key : BinderKey} {entry : BinderEntry}
    (sound : HoldingSound store.users store.cards key entry) :
    Valid { store with binder := store.binder.insert key entry } :=
  { valid with binder := valid.binder.insert sound }

theorem eraseHolding (valid : store.Valid) (key : BinderKey) :
    Valid { store with binder := store.binder.erase key } :=
  { valid with binder := (valid.binder.erase key).mono fun _ _ kept => kept.2 }

theorem insertDeck (valid : store.Valid) {id : Uuid} {deck : Deck}
    (sound : DeckSound store.users id deck) :
    Valid { store with decks := store.decks.insert id deck } :=
  { valid with
    decks := valid.decks.insert sound
    entries := valid.entries.mono
      (EntrySound.mono (store.decks.contains_insert id deck) fun _ present => present) }

theorem insertEntry (valid : store.Valid) {key : EntryKey} {entry : DeckEntry}
    (sound : EntrySound store.decks store.cards key entry) :
    Valid { store with entries := store.entries.insert key entry } :=
  { valid with entries := valid.entries.insert sound }

theorem eraseEntry (valid : store.Valid) (key : EntryKey) :
    Valid { store with entries := store.entries.erase key } :=
  { valid with entries := (valid.entries.erase key).mono fun _ _ kept => kept.2 }

theorem clearDeck (valid : store.Valid) (deck : Uuid) : (store.clearDeck deck).Valid :=
  { valid with entries := (valid.entries.select _).mono fun _ _ kept => kept.2 }

/-- No entry is left without its deck, as the entries of a deck go with it. -/
theorem deleteDeck (valid : store.Valid) (deck : Uuid) : (store.deleteDeck deck).Valid where
  users := valid.users
  usernames := valid.usernames
  cards := valid.cards
  binder := valid.binder
  decks := (valid.decks.erase deck).mono fun _ _ kept => kept.2
  entries := by
    refine (valid.entries.select _).mono fun key entry kept => ?_
    have other : key.deck ≠ deck := by simpa using kept.1
    have present := kept.2.deck
    rw [Table.contains, ← Table.get?_erase_of_ne store.decks other] at present
    exact { kept.2 with deck := present }

end Valid

end Store
end Memory
end CardInventory
