import CardInventory.Proofs.Memory.Schema

/-!
# Numbers of copies

The tables seen as numbers of copies: how many of a card a user holds in the
binder, and how many lie in a zone of a deck. A missing row is the number zero,
and setting a number to zero removes the row. The main statements say what each
number is after one of them has been set, and that valid tables stay valid.
-/

namespace CardInventory.Memory.Store

/-- The copies of a card in a user's binder. -/
def held (store : Store) (user card : Uuid) : Int :=
  (store.binder.get? ⟨user, card⟩).elim 0 BinderEntry.quantity

/-- The copies of a card in a zone of a deck. -/
def placed (store : Store) (deck card : Uuid) (zone : Zone) : Int :=
  (store.entries.get? ⟨deck, card, zone⟩).elim 0 DeckEntry.quantity

/-- The tables with another number of copies of a card in a user's binder. -/
def hold (store : Store) (user card : Uuid) (quantity : Int) (time : Instant) : Store :=
  { store with
    binder :=
      if quantity = 0 then store.binder.erase ⟨user, card⟩
      else store.binder.insert ⟨user, card⟩ ⟨user, card, quantity, time⟩ }

/-- The tables with another number of copies of a card in a zone of a deck. -/
def place (store : Store) (deck card : Uuid) (zone : Zone) (quantity : Int) (time : Instant) :
    Store :=
  { store with
    entries :=
      if quantity = 0 then store.entries.erase ⟨deck, card, zone⟩
      else store.entries.insert ⟨deck, card, zone⟩ ⟨deck, card, zone, quantity, time⟩ }

theorem elim_holding (store : Store) (user card : Uuid) :
    (store.binder.get? ⟨user, card⟩).elim 0 BinderEntry.quantity = store.held user card :=
  rfl

theorem elim_entry (store : Store) (deck card : Uuid) (zone : Zone) :
    (store.entries.get? ⟨deck, card, zone⟩).elim 0 DeckEntry.quantity =
      store.placed deck card zone :=
  rfl

section Frame

variable (store : Store) (user card deck : Uuid) (zone : Zone) (quantity : Int) (time : Instant)

@[simp]
theorem hold_users : (store.hold user card quantity time).users = store.users :=
  rfl

@[simp]
theorem hold_cards : (store.hold user card quantity time).cards = store.cards :=
  rfl

@[simp]
theorem hold_decks : (store.hold user card quantity time).decks = store.decks :=
  rfl

@[simp]
theorem hold_entries : (store.hold user card quantity time).entries = store.entries :=
  rfl

@[simp]
theorem placed_hold : (store.hold user card quantity time).placed = store.placed :=
  rfl

@[simp]
theorem place_users : (store.place deck card zone quantity time).users = store.users :=
  rfl

@[simp]
theorem place_cards : (store.place deck card zone quantity time).cards = store.cards :=
  rfl

@[simp]
theorem place_decks : (store.place deck card zone quantity time).decks = store.decks :=
  rfl

@[simp]
theorem place_binder : (store.place deck card zone quantity time).binder = store.binder :=
  rfl

@[simp]
theorem held_place : (store.place deck card zone quantity time).held = store.held :=
  rfl

theorem held_hold (user' card' : Uuid) :
    (store.hold user card quantity time).held user' card' =
      if user' = user ∧ card' = card then quantity else store.held user' card' := by
  by_cases same : user' = user ∧ card' = card
  · obtain ⟨rfl, rfl⟩ := same
    by_cases none : quantity = 0 <;> simp [held, hold, none]
  · have different : BinderKey.mk user' card' ≠ ⟨user, card⟩ := by simpa using same
    by_cases none : quantity = 0 <;>
      simp [held, hold, none, same, Table.get?_erase_of_ne _ different,
        Table.get?_insert_of_ne _ different]

theorem placed_place (deck' card' : Uuid) (zone' : Zone) :
    (store.place deck card zone quantity time).placed deck' card' zone' =
      if deck' = deck ∧ card' = card ∧ zone' = zone then quantity
      else store.placed deck' card' zone' := by
  by_cases same : deck' = deck ∧ card' = card ∧ zone' = zone
  · obtain ⟨rfl, rfl, rfl⟩ := same
    by_cases none : quantity = 0 <;> simp [placed, place, none]
  · have different : EntryKey.mk deck' card' zone' ≠ ⟨deck, card, zone⟩ := by simpa using same
    by_cases none : quantity = 0 <;>
      simp [placed, place, none, same, Table.get?_erase_of_ne _ different,
        Table.get?_insert_of_ne _ different]

theorem placed_place_of_ne {deck' card' : Uuid} {zone' : Zone}
    (different : ¬ (deck' = deck ∧ card' = card ∧ zone' = zone)) :
    (store.place deck card zone quantity time).placed deck' card' zone' =
      store.placed deck' card' zone' := by
  rw [placed_place, if_neg different]

/-- To set the copies in one zone of a deck leaves those in its other zone. -/
theorem placed_place_of_zone_ne {zone' : Zone} (different : zone ≠ zone') :
    (store.place deck card zone quantity time).placed deck card zone' =
      store.placed deck card zone' :=
  placed_place_of_ne _ _ _ _ _ _ fun ⟨_, _, zones⟩ => different zones.symm

end Frame

namespace Valid

variable {store : Store} {user card deck : Uuid} {zone : Zone} {quantity : Int}

theorem get?_binder (valid : store.Valid) {entry : BinderEntry}
    (found : store.binder.get? ⟨user, card⟩ = some entry) :
    store.held user card = entry.quantity ∧ 1 ≤ entry.quantity :=
  ⟨by simp [held, found], (valid.binder found).quantity.1⟩

/-- A user who holds copies of a card exists, and so does the card. -/
theorem of_held_pos (valid : store.Valid) (holding : 0 < store.held user card) :
    store.users.contains user = true ∧ store.cards.contains card = true := by
  unfold held at holding
  cases found : store.binder.get? ⟨user, card⟩ with
  | none => simp [found] at holding
  | some entry => exact ⟨(valid.binder found).user, (valid.binder found).card⟩

theorem get?_entries (valid : store.Valid) {entry : DeckEntry}
    (found : store.entries.get? ⟨deck, card, zone⟩ = some entry) :
    entry.zone = zone ∧ store.placed deck card zone = entry.quantity ∧ 1 ≤ entry.quantity :=
  ⟨congrArg EntryKey.zone (valid.entries found).keyed, by simp [placed, found],
    (valid.entries found).quantity.1⟩

theorem held_nonneg (valid : store.Valid) (user card : Uuid) : 0 ≤ store.held user card := by
  unfold held
  cases found : store.binder.get? ⟨user, card⟩ with
  | none => exact Int.le_refl 0
  | some entry => exact Int.le_trans (by decide) (valid.binder found).quantity.1

theorem placed_nonneg (valid : store.Valid) (deck card : Uuid) (zone : Zone) :
    0 ≤ store.placed deck card zone := by
  unfold placed
  cases found : store.entries.get? ⟨deck, card, zone⟩ with
  | none => exact Int.le_refl 0
  | some entry => exact Int.le_trans (by decide) (valid.entries found).quantity.1

theorem held_le (valid : store.Valid) (user card : Uuid) :
    store.held user card ≤ Width.greatest 32 := by
  unfold held
  cases found : store.binder.get? ⟨user, card⟩ with
  | none => decide
  | some entry => exact (valid.binder found).quantity.2

theorem placed_le (valid : store.Valid) (deck card : Uuid) (zone : Zone) :
    store.placed deck card zone ≤ Width.greatest 32 := by
  unfold placed
  cases found : store.entries.get? ⟨deck, card, zone⟩ with
  | none => decide
  | some entry => exact (valid.entries found).quantity.2

theorem hold (valid : store.Valid) (userExists : store.users.contains user = true)
    (cardExists : store.cards.contains card = true) (nonneg : 0 ≤ quantity)
    (small : quantity ≤ Width.greatest 32) (time : Instant) :
    (store.hold user card quantity time).Valid := by
  unfold Store.hold
  by_cases none : quantity = 0
  · simpa only [none, if_true] using valid.eraseHolding ⟨user, card⟩
  · have positive : 1 ≤ quantity := by omega
    have sound : HoldingSound store.users store.cards ⟨user, card⟩ ⟨user, card, quantity, time⟩ :=
      ⟨rfl, userExists, cardExists, positive, small⟩
    simpa only [none, if_false] using valid.insertHolding sound

theorem place (valid : store.Valid) (deckExists : store.decks.contains deck = true)
    (cardExists : store.cards.contains card = true) (nonneg : 0 ≤ quantity)
    (small : quantity ≤ Width.greatest 32) (time : Instant) :
    (store.place deck card zone quantity time).Valid := by
  unfold Store.place
  by_cases none : quantity = 0
  · simpa only [none, if_true] using valid.eraseEntry ⟨deck, card, zone⟩
  · have positive : 1 ≤ quantity := by omega
    have sound : EntrySound store.decks store.cards ⟨deck, card, zone⟩
        ⟨deck, card, zone, quantity, time⟩ :=
      ⟨rfl, deckExists, cardExists, positive, small⟩
    simpa only [none, if_false] using valid.insertEntry sound

end Valid

end CardInventory.Memory.Store
