import CardInventory.Proofs.Memory.Holdings
import CardInventory.Proofs.Memory.Schema

/-!
# Answers over valid tables

For each request that changes rows, what it checks and what it does where it is
not refused. Whatever is asked, valid tables are left valid, and a request that
is answered by a fault leaves the tables as they were.
-/

namespace CardInventory

/-- Whether the numbers of copies and the capacities in a request take 32 bits. -/
def Storage.Request.narrow : Storage.Request → Bool
  | .addToBinder _ _ quantity => quantityFits quantity
  | .setInBinder _ _ quantity => quantityFits quantity
  | .createDeck draft => draft.capacity.all quantityFits
  | .updateDeck _ patch => patch.capacity.all fun capacity => capacity.all quantityFits
  | .addToDeck _ _ _ quantity => quantityFits quantity
  | .setInDeck _ _ _ quantity => quantityFits quantity
  | _ => true

namespace Memory

open Storage Text

@[simp]
theorem expect_bind_eq_ok_iff {α : Type} {condition : Bool} {fault : Storage.Fault}
    {next : Unit → Except Storage.Fault α} {value : α} :
    (expect condition fault >>= next) = .ok value ↔ condition = true ∧ next () = .ok value := by
  cases condition <;> simp [expect, bind, Except.bind]

@[simp]
theorem expect_eq_ok_iff {condition : Bool} {fault : Storage.Fault} :
    expect condition fault = .ok () ↔ condition = true := by
  cases condition <;> simp [expect]

namespace Store

variable {store changed : Store} {moment : Moment}

theorem ensureDeck_eq_ok_iff {draft : DeckDraft} : ensureDeck draft = .ok () ↔ draft.Sound := by
  simp only [ensureDeck, expect_bind_eq_ok_iff, expect_eq_ok_iff, Bool.not_eq_true']
  constructor
  · rintro ⟨name, format, capacity⟩
    refine ⟨name, format, fun limit given => ?_⟩
    have positive : 0 < limit := by simpa [given] using capacity
    exact positive
  · rintro ⟨name, format, capacity⟩
    refine ⟨name, format, ?_⟩
    cases given : draft.capacity with
    | none => rfl
    | some limit =>
        have positive : 0 < limit := capacity limit given
        simpa using positive

theorem ensureDeck_bind_eq_ok_iff {α : Type} {draft : DeckDraft}
    {next : Unit → Except Storage.Fault α} {value : α} :
    (ensureDeck draft >>= next) = .ok value ↔ draft.Sound ∧ next () = .ok value := by
  rw [← ensureDeck_eq_ok_iff]
  rcases ensureDeck draft with fault | _ <;> simp [bind, Except.bind]

theorem createCard_eq_ok_iff {draft : CardDraft} {card : Card} :
    store.createCard draft moment = .ok (card, changed) ↔
      store.cards.contains draft.id = false ∧
        card = { draft with faces := Face.inOrder draft.faces, createdAt := moment.time } ∧
        changed = { store with cards := store.cards.insert draft.id card } := by
  simp only [createCard, expect_bind_eq_ok_iff, Bool.not_eq_true', pure, Except.pure,
    Except.ok.injEq, Prod.mk.injEq]
  constructor <;>
  · rintro ⟨unused, rfl, rfl⟩
    exact ⟨unused, rfl, rfl⟩

theorem createUser_eq_ok_iff {draft : UserDraft} {user : User} :
    store.createUser draft moment = .ok (user, changed) ↔
      isBlankText draft.username = false ∧
        (store.users.Forall fun _ other => other.username ≠ draft.username) ∧
        user = { draft with id := moment.fresh, createdAt := moment.time } ∧
        changed = { store with users := store.users.insert moment.fresh user } := by
  have unused : (!store.users.values.any fun user => user.username = draft.username) = true ↔
      store.users.Forall fun _ other => other.username ≠ draft.username := by
    simp only [Bool.not_eq_true', List.any_eq_false, Table.mem_values, decide_eq_true_eq]
    exact ⟨fun none _ other found => none other ⟨_, found⟩, fun none other ⟨_, found⟩ => none found⟩
  simp only [createUser, expect_bind_eq_ok_iff, unused, Bool.not_eq_true', pure, Except.pure,
    Except.ok.injEq, Prod.mk.injEq]
  constructor <;>
  · rintro ⟨named, unused, rfl, rfl⟩
    exact ⟨named, unused, rfl, rfl⟩

theorem putInBinder_eq_ok_iff {user card : Uuid} {quantity : Int} {entry : BinderEntry} :
    store.putInBinder user card quantity moment = .ok (entry, changed) ↔
      0 < quantity ∧ entry = ⟨user, card, quantity, moment.time⟩ ∧
        changed = { store with binder := store.binder.insert ⟨user, card⟩ entry } := by
  simp only [putInBinder, expect_bind_eq_ok_iff, decide_eq_true_eq, pure, Except.pure,
    Except.ok.injEq, Prod.mk.injEq]
  constructor <;>
  · rintro ⟨positive, rfl, rfl⟩
    exact ⟨positive, rfl, rfl⟩

theorem addToBinder_eq_ok_iff {user card : Uuid} {quantity : Int} {entry : BinderEntry} :
    store.addToBinder user card quantity moment = .ok (entry, changed) ↔
      store.users.contains user = true ∧ store.cards.contains card = true ∧
        quantityFits (store.held user card + quantity) = true ∧
        store.putInBinder user card (store.held user card + quantity) moment =
          .ok (entry, changed) := by
  simp only [addToBinder, ensureBinderKeys, bind_assoc, expect_bind_eq_ok_iff, held]

theorem setInBinder_eq_ok_iff {user card : Uuid} {quantity : Int} {entry : BinderEntry} :
    store.setInBinder user card quantity moment = .ok (entry, changed) ↔
      store.binder.contains ⟨user, card⟩ = true ∧
        store.putInBinder user card quantity moment = .ok (entry, changed) := by
  simp only [setInBinder, expect_bind_eq_ok_iff]

theorem createDeck_eq_ok_iff {draft : DeckDraft} {deck : Deck} :
    store.createDeck draft moment = .ok (deck, changed) ↔
      store.users.contains draft.owner = true ∧ draft.Sound ∧
        deck = { draft with
          id := moment.fresh, createdAt := moment.time, updatedAt := moment.time } ∧
        changed = { store with decks := store.decks.insert moment.fresh deck } := by
  simp only [createDeck, expect_bind_eq_ok_iff, ensureDeck_bind_eq_ok_iff, pure, Except.pure,
    Except.ok.injEq, Prod.mk.injEq]
  constructor <;>
  · rintro ⟨owner, sound, rfl, rfl⟩
    exact ⟨owner, sound, rfl, rfl⟩

theorem updateDeck_eq_ok_iff {id : Uuid} {patch : DeckPatch} {deck : Deck} :
    store.updateDeck id patch moment = .ok (deck, changed) ↔
      ∃ old, store.decks.get? id = some old ∧ deck = patch.apply old moment.time ∧
        deck.toDeckDraft.Sound ∧
        changed = { store with decks := store.decks.insert id deck } := by
  unfold updateDeck
  cases store.decks.get? id with
  | none => simp [throw, throwThe, MonadExceptOf.throw]
  | some old =>
      simp only [ensureDeck_bind_eq_ok_iff, pure, Except.pure, Except.ok.injEq, Prod.mk.injEq,
        Option.some.injEq]
      constructor
      · rintro ⟨sound, rfl, rfl⟩
        exact ⟨old, rfl, rfl, sound, rfl⟩
      · rintro ⟨_, rfl, rfl, sound, rfl⟩
        exact ⟨sound, rfl, rfl⟩

theorem putInDeck_eq_ok_iff {deck card : Uuid} {zone : Zone} {quantity : Int}
    {entry : DeckEntry} :
    store.putInDeck deck card zone quantity moment = .ok (entry, changed) ↔
      0 < quantity ∧ entry = ⟨deck, card, zone, quantity, moment.time⟩ ∧
        changed = { store with entries := store.entries.insert ⟨deck, card, zone⟩ entry } := by
  simp only [putInDeck, expect_bind_eq_ok_iff, decide_eq_true_eq, pure, Except.pure,
    Except.ok.injEq, Prod.mk.injEq]
  constructor <;>
  · rintro ⟨positive, rfl, rfl⟩
    exact ⟨positive, rfl, rfl⟩

theorem addToDeck_eq_ok_iff {deck card : Uuid} {zone : Zone} {quantity : Int}
    {entry : DeckEntry} :
    store.addToDeck deck card zone quantity moment = .ok (entry, changed) ↔
      store.decks.contains deck = true ∧ store.cards.contains card = true ∧
        quantityFits (store.placed deck card zone + quantity) = true ∧
        store.putInDeck deck card zone (store.placed deck card zone + quantity) moment =
          .ok (entry, changed) := by
  simp only [addToDeck, ensureEntryKeys, bind_assoc, expect_bind_eq_ok_iff, placed]

theorem setInDeck_eq_ok_iff {deck card : Uuid} {zone : Zone} {quantity : Int}
    {entry : DeckEntry} :
    store.setInDeck deck card zone quantity moment = .ok (entry, changed) ↔
      store.entries.contains ⟨deck, card, zone⟩ = true ∧
        store.putInDeck deck card zone quantity moment = .ok (entry, changed) := by
  simp only [setInDeck, expect_bind_eq_ok_iff]

/-! ## Changes that are not refused -/

theorem hold_of_pos {user card : Uuid} {quantity : Int} (positive : 0 < quantity)
    (time : Instant) :
    store.hold user card quantity time =
      { store with
        binder := store.binder.insert ⟨user, card⟩ ⟨user, card, quantity, time⟩ } := by
  rw [hold, if_neg (Int.ne_of_gt positive)]

theorem place_of_pos {deck card : Uuid} {zone : Zone} {quantity : Int} (positive : 0 < quantity)
    (time : Instant) :
    store.place deck card zone quantity time =
      { store with
        entries := store.entries.insert ⟨deck, card, zone⟩
          ⟨deck, card, zone, quantity, time⟩ } := by
  rw [place, if_neg (Int.ne_of_gt positive)]

theorem addToBinder_eq_hold {user card : Uuid} {quantity : Int}
    (userExists : store.users.contains user = true)
    (cardExists : store.cards.contains card = true)
    (positive : 0 < store.held user card + quantity)
    (fits : quantityFits (store.held user card + quantity) = true) :
    store.addToBinder user card quantity moment =
      .ok (⟨user, card, store.held user card + quantity, moment.time⟩,
        store.hold user card (store.held user card + quantity) moment.time) :=
  addToBinder_eq_ok_iff.mpr ⟨userExists, cardExists, fits,
    putInBinder_eq_ok_iff.mpr ⟨positive, rfl, hold_of_pos positive _⟩⟩

theorem setInBinder_eq_hold {user card : Uuid} {quantity : Int}
    (present : store.binder.contains ⟨user, card⟩ = true) (positive : 0 < quantity) :
    store.setInBinder user card quantity moment =
      .ok (⟨user, card, quantity, moment.time⟩, store.hold user card quantity moment.time) :=
  setInBinder_eq_ok_iff.mpr ⟨present,
    putInBinder_eq_ok_iff.mpr ⟨positive, rfl, hold_of_pos positive _⟩⟩

theorem addToDeck_eq_place {deck card : Uuid} {zone : Zone} {quantity : Int}
    (deckExists : store.decks.contains deck = true)
    (cardExists : store.cards.contains card = true)
    (positive : 0 < store.placed deck card zone + quantity)
    (fits : quantityFits (store.placed deck card zone + quantity) = true) :
    store.addToDeck deck card zone quantity moment =
      .ok (⟨deck, card, zone, store.placed deck card zone + quantity, moment.time⟩,
        store.place deck card zone (store.placed deck card zone + quantity) moment.time) :=
  addToDeck_eq_ok_iff.mpr ⟨deckExists, cardExists, fits,
    putInDeck_eq_ok_iff.mpr ⟨positive, rfl, place_of_pos positive _⟩⟩

theorem setInDeck_eq_place {deck card : Uuid} {zone : Zone} {quantity : Int}
    (present : store.entries.contains ⟨deck, card, zone⟩ = true) (positive : 0 < quantity) :
    store.setInDeck deck card zone quantity moment =
      .ok (⟨deck, card, zone, quantity, moment.time⟩,
        store.place deck card zone quantity moment.time) :=
  setInDeck_eq_ok_iff.mpr ⟨present,
    putInDeck_eq_ok_iff.mpr ⟨positive, rfl, place_of_pos positive _⟩⟩

/-! ## Whole answers -/

/-- A refused change leaves the tables alone. -/
theorem settle_of_error {α : Type} {outcome : Except Storage.Fault (α × Store)}
    {fault : Storage.Fault} (refused : (store.settle outcome).1 = .error fault) :
    (store.settle outcome).2 = store := by
  rcases outcome with _ | ⟨value, changed⟩
  · rfl
  · simp [settle] at refused

/-- What holds of the tables before a change, and of those after it where it is made,
holds of the tables it leaves. -/
theorem settle_keeps {α : Type} {condition : Store → Prop}
    {outcome : Except Storage.Fault (α × Store)} (before : condition store)
    (after : ∀ value changed, outcome = .ok (value, changed) → condition changed) :
    condition (store.settle outcome).2 := by
  rcases outcome with _ | ⟨value, changed⟩
  · exact before
  · exact after value changed rfl

theorem answer_of_error {request : Request} {fault : Storage.Fault}
    (refused : (store.answer moment request).1 = .error fault) :
    (store.answer moment request).2 = store := by
  cases request <;> first
    | exact settle_of_error refused
    | simp [answer] at refused ⊢

theorem putInBinder_valid (valid : store.Valid) {user card : Uuid} {quantity : Int}
    (userExists : store.users.contains user = true)
    (cardExists : store.cards.contains card = true)
    (fits : quantityFits quantity = true) {entry : BinderEntry}
    (done : store.putInBinder user card quantity moment = .ok (entry, changed)) :
    changed.Valid := by
  obtain ⟨positive, rfl, rfl⟩ := putInBinder_eq_ok_iff.mp done
  exact valid.insertHolding ⟨rfl, userExists, cardExists, storable_of_fits positive fits⟩

theorem putInDeck_valid (valid : store.Valid) {deck card : Uuid} {zone : Zone} {quantity : Int}
    (deckExists : store.decks.contains deck = true)
    (cardExists : store.cards.contains card = true)
    (fits : quantityFits quantity = true) {entry : DeckEntry}
    (done : store.putInDeck deck card zone quantity moment = .ok (entry, changed)) :
    changed.Valid := by
  obtain ⟨positive, rfl, rfl⟩ := putInDeck_eq_ok_iff.mp done
  exact valid.insertEntry ⟨rfl, deckExists, cardExists, storable_of_fits positive fits⟩

/-- Valid tables stay valid, whatever is asked of them. -/
theorem answer_valid (valid : store.Valid) {request : Request} (fits : request.narrow = true) :
    (store.answer moment request).2.Valid := by
  cases request with
  | createCard draft =>
      refine settle_keeps valid fun card changed done => ?_
      obtain ⟨_, rfl, rfl⟩ := createCard_eq_ok_iff.mp done
      exact valid.insertCard rfl
  | createUser draft =>
      refine settle_keeps valid fun user changed done => ?_
      obtain ⟨named, unused, rfl, rfl⟩ := createUser_eq_ok_iff.mp done
      exact valid.insertUser ⟨rfl, named⟩ unused
  | addToBinder user card quantity =>
      refine settle_keeps valid fun entry changed done => ?_
      obtain ⟨userExists, cardExists, sumFits, put⟩ := addToBinder_eq_ok_iff.mp done
      exact putInBinder_valid valid userExists cardExists sumFits put
  | setInBinder user card quantity =>
      refine settle_keeps valid fun entry changed done => ?_
      obtain ⟨present, put⟩ := setInBinder_eq_ok_iff.mp done
      obtain ⟨old, found⟩ := Table.contains_iff.mp present
      exact putInBinder_valid valid (valid.binder found).user (valid.binder found).card fits put
  | deleteFromBinder user card => exact valid.eraseHolding ⟨user, card⟩
  | createDeck draft =>
      refine settle_keeps valid fun deck changed done => ?_
      obtain ⟨owner, sound, rfl, rfl⟩ := createDeck_eq_ok_iff.mp done
      exact valid.insertDeck ⟨rfl, owner, sound⟩
  | updateDeck id patch =>
      refine settle_keeps valid fun deck changed done => ?_
      obtain ⟨old, found, rfl, sound, rfl⟩ := updateDeck_eq_ok_iff.mp done
      exact valid.insertDeck ⟨(valid.decks found).keyed, (valid.decks found).owner, sound⟩
  | deleteDeck id => exact valid.deleteDeck id
  | addToDeck deck card zone quantity =>
      refine settle_keeps valid fun entry changed done => ?_
      obtain ⟨deckExists, cardExists, sumFits, put⟩ := addToDeck_eq_ok_iff.mp done
      exact putInDeck_valid valid deckExists cardExists sumFits put
  | setInDeck deck card zone quantity =>
      refine settle_keeps valid fun entry changed done => ?_
      obtain ⟨present, put⟩ := setInDeck_eq_ok_iff.mp done
      obtain ⟨old, found⟩ := Table.contains_iff.mp present
      exact putInDeck_valid valid (valid.entries found).deck (valid.entries found).card fits put
  | deleteFromDeck deck card zone => exact valid.eraseEntry ⟨deck, card, zone⟩
  | clearDeck deck => exact valid.clearDeck deck
  | _ => exact valid

end Store

end Memory

end CardInventory
