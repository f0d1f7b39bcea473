import CardInventory.Proofs.Memory.Holdings

/-!
# Copies owned and copies in a deck

A user owns the copies in the binder and those in the decks of the user. The
copies in a deck are those of all its entries. The main statements say how both
numbers follow the changes of single rows, of decks, and the deletion of a deck.
-/

namespace CardInventory.Memory.Store

/-- The copies of a card in both zones of a deck. -/
def inDeck (store : Store) (deck card : Uuid) : Int :=
  store.placed deck card .main + store.placed deck card .sideboard

/-- What a deck contributes to the copies of a card a user owns. -/
def share (store : Store) (user card : Uuid) (deck : Deck) : Int :=
  if deck.owner = user then store.inDeck deck.id card else 0

/-- The copies of a card a user owns, in the binder and in all decks of the user. -/
def owned (store : Store) (user card : Uuid) : Int :=
  store.held user card + store.decks.total (store.share user card)

/-- What an entry contributes to the copies in a deck. -/
def countedIn (deck : Uuid) (entry : DeckEntry) : Int :=
  if entry.deck = deck then entry.quantity else 0

/-- The copies in a deck, of all cards and in both zones. -/
def copiesIn (store : Store) (deck : Uuid) : Int :=
  store.entries.total (countedIn deck)

/-! ## Copies owned -/

section Owned

variable {store : Store}

theorem owned_hold (user card : Uuid) (quantity : Int) (time : Instant) (user' card' : Uuid) :
    (store.hold user card quantity time).owned user' card' =
      store.owned user' card' +
        if user' = user ∧ card' = card then quantity - store.held user card else 0 := by
  have shares : (store.hold user card quantity time).share user' card' =
      store.share user' card' := rfl
  rw [owned, owned, held_hold, hold_decks, shares]
  split
  · rename_i same
    obtain ⟨rfl, rfl⟩ := same
    omega
  · omega

theorem inDeck_place (deck card : Uuid) (zone : Zone) (quantity : Int) (time : Instant)
    (deck' card' : Uuid) :
    (store.place deck card zone quantity time).inDeck deck' card' =
      store.inDeck deck' card' +
        if deck' = deck ∧ card' = card then quantity - store.placed deck card zone else 0 := by
  simp only [inDeck, placed_place]
  by_cases same : deck' = deck ∧ card' = card
  · obtain ⟨rfl, rfl⟩ := same
    cases zone with
    | main =>
        simp only [true_and, if_true, reduceCtorEq, if_false]
        omega
    | sideboard =>
        simp only [true_and, if_true, reduceCtorEq, if_false]
        omega
  · have other : ∀ zone', ¬ (deck' = deck ∧ card' = card ∧ zone' = zone) := by
      rintro zone' ⟨decks, cards, -⟩
      exact same ⟨decks, cards⟩
    simp only [other, same, if_false]
    omega

/-- Copies put into a zone of a deck count for the owner of the deck. -/
theorem owned_place (valid : store.Valid) {deck : Uuid} {row : Deck}
    (found : store.decks.get? deck = some row) (card : Uuid) (zone : Zone) (quantity : Int)
    (time : Instant) (user card' : Uuid) :
    (store.place deck card zone quantity time).owned user card' =
      store.owned user card' +
        if user = row.owner ∧ card' = card then quantity - store.placed deck card zone else 0 := by
  have keyed : row.id = deck := (valid.decks found).keyed
  have others := Table.total_change deck
    (valid.decks.mono fun id other sound (different : id ≠ deck) =>
      show (store.place deck card zone quantity time).share user card' other =
          store.share user card' other by
        have elsewhere : other.id ≠ deck := sound.keyed ▸ different
        simp only [share, inDeck_place, elsewhere, false_and, if_false, Int.add_zero])
  have own : (store.place deck card zone quantity time).share user card' row =
      store.share user card' row +
        if user = row.owner ∧ card' = card then quantity - store.placed deck card zone else 0 := by
    simp only [share, inDeck_place, keyed, true_and]
    by_cases owner : row.owner = user
    · simp [owner]
    · simp [owner, Ne.symm owner]
  rw [found] at others
  simp only [Option.elim_some, own] at others
  rw [owned, owned, held_place, place_decks]
  omega

/-- A deck that takes the place of one with its identifier and owner changes nothing. -/
theorem owned_insertDeck_of_same {id : Uuid} {old new : Deck}
    (found : store.decks.get? id = some old) (sameId : new.id = old.id)
    (sameOwner : new.owner = old.owner) (user card : Uuid) :
    owned { store with decks := store.decks.insert id new } user card = store.owned user card := by
  have total := store.decks.total_insert id new (store.share user card)
  have same : store.share user card new = store.share user card old := by
    simp only [share, sameId, sameOwner]
  rw [found] at total
  simp only [Option.elim_some, same] at total
  change store.held user card + (store.decks.insert id new).total (store.share user card) = _
  rw [owned]
  omega

/-- A deck without entries adds nothing. -/
theorem owned_insertDeck_of_new {id : Uuid} {deck : Deck} (unused : store.decks.get? id = none)
    (user card : Uuid) (empty : store.inDeck deck.id card = 0) :
    owned { store with decks := store.decks.insert id deck } user card = store.owned user card := by
  have total := store.decks.total_insert id deck (store.share user card)
  have nothing : store.share user card deck = 0 := by
    simp [share, empty]
  rw [unused] at total
  simp only [Option.elim_none, nothing] at total
  change store.held user card + (store.decks.insert id deck).total (store.share user card) = _
  rw [owned]
  omega

theorem placed_deleteDeck (deck deck' card : Uuid) (zone : Zone) :
    (store.deleteDeck deck).placed deck' card zone =
      if deck' = deck then 0 else store.placed deck' card zone := by
  by_cases same : deck' = deck
  · simp [placed, deleteDeck, clearDeck, Table.get?_select, same]
  · simp [placed, deleteDeck, clearDeck, Table.get?_select, same]

/-- A deleted deck takes its copies with it. -/
theorem owned_deleteDeck (valid : store.Valid) {deck : Uuid} {row : Deck}
    (found : store.decks.get? deck = some row) (user card : Uuid) :
    (store.deleteDeck deck).owned user card =
      store.owned user card - if user = row.owner then store.inDeck deck card else 0 := by
  have keyed : row.id = deck := (valid.decks found).keyed
  have others : (store.decks.erase deck).total ((store.deleteDeck deck).share user card) =
      (store.decks.erase deck).total (store.share user card) := by
    refine Table.total_congr ((valid.decks.erase deck).mono fun id other kept => ?_)
    obtain ⟨different, sound⟩ := kept
    have elsewhere : other.id ≠ deck := sound.keyed ▸ different
    simp only [share, inDeck, placed_deleteDeck, elsewhere, if_false]
  have own : store.share user card row =
      if user = row.owner then store.inDeck deck card else 0 := by
    simp only [share, keyed, eq_comm]
  have total := store.decks.total_erase deck (store.share user card)
  rw [found] at total
  simp only [Option.elim_some, own] at total
  change store.held user card +
    (store.decks.erase deck).total ((store.deleteDeck deck).share user card) = _
  rw [others, total, owned]
  omega

end Owned

/-! ## Copies in a deck -/

section CopiesIn

variable {store : Store}

theorem elim_countedIn (valid : store.Valid) (deck card : Uuid) (zone : Zone) (deck' : Uuid) :
    (store.entries.get? ⟨deck, card, zone⟩).elim 0 (countedIn deck') =
      if deck' = deck then store.placed deck card zone else 0 := by
  unfold placed
  cases found : store.entries.get? ⟨deck, card, zone⟩ with
  | none => simp
  | some entry =>
      have entryDeck : entry.deck = deck := congrArg EntryKey.deck (valid.entries found).keyed
      simp only [Option.elim_some, countedIn, entryDeck, eq_comm]

theorem copiesIn_place (valid : store.Valid) (deck card : Uuid) (zone : Zone) (quantity : Int)
    (time : Instant) (deck' : Uuid) :
    (store.place deck card zone quantity time).copiesIn deck' =
      store.copiesIn deck' +
        if deck' = deck then quantity - store.placed deck card zone else 0 := by
  have new : countedIn deck' ⟨deck, card, zone, quantity, time⟩ =
      if deck' = deck then quantity else 0 := by
    simp only [countedIn, eq_comm]
  unfold copiesIn place
  by_cases none : quantity = 0
  · simp only [none, if_true]
    rw [Table.total_erase, elim_countedIn valid]
    split <;> omega
  · simp only [none, if_false]
    rw [Table.total_insert, elim_countedIn valid, new]
    split <;> omega

theorem copiesIn_deleteDeck (valid : store.Valid) {deck deck' : Uuid} (different : deck' ≠ deck) :
    (store.deleteDeck deck).copiesIn deck' = store.copiesIn deck' := by
  refine Table.total_select (valid.entries.mono fun key entry sound dropped => ?_)
  have entryDeck : entry.deck = deck :=
    (congrArg EntryKey.deck sound.keyed).trans (by simpa using dropped)
  rw [countedIn, entryDeck, if_neg (Ne.symm different)]

/-- A deck that does not exist holds no copies. -/
theorem copiesIn_eq_zero (valid : store.Valid) {deck : Uuid}
    (missing : store.decks.get? deck = none) : store.copiesIn deck = 0 := by
  refine Table.total_eq_zero fun key entry found => ?_
  have sound := valid.entries found
  have entryDeck : entry.deck = key.deck := congrArg EntryKey.deck sound.keyed
  obtain ⟨row, present⟩ := Table.contains_iff.mp sound.deck
  have different : entry.deck ≠ deck := by
    rintro rfl
    rw [entryDeck, present] at missing
    simp at missing
  exact if_neg different

theorem placed_eq_zero (valid : store.Valid) {deck : Uuid}
    (missing : store.decks.get? deck = none) (card : Uuid) (zone : Zone) :
    store.placed deck card zone = 0 := by
  unfold placed
  cases found : store.entries.get? ⟨deck, card, zone⟩ with
  | none => rfl
  | some entry =>
      obtain ⟨row, present⟩ := Table.contains_iff.mp (valid.entries found).deck
      rw [present] at missing
      simp at missing

theorem inDeck_eq_zero (valid : store.Valid) {deck : Uuid}
    (missing : store.decks.get? deck = none) (card : Uuid) : store.inDeck deck card = 0 := by
  simp [inDeck, placed_eq_zero valid missing]

/-- What two rows hold of a card is no more than what the deck holds. -/
theorem inDeck_le_copiesIn (valid : store.Valid) (deck card : Uuid) :
    store.inDeck deck card ≤ store.copiesIn deck := by
  have nonneg : store.entries.Forall fun _ entry => 0 ≤ countedIn deck entry := by
    refine valid.entries.mono fun key entry sound => ?_
    have positive := sound.quantity.1
    unfold countedIn
    split <;> omega
  have zones : EntryKey.mk deck card .sideboard ≠ ⟨deck, card, .main⟩ := by simp
  have bound := Table.two_le_total zones nonneg
  rw [elim_countedIn valid, elim_countedIn valid, if_pos rfl, if_pos rfl] at bound
  exact bound

end CopiesIn

end CardInventory.Memory.Store
