import CardInventory.Proofs.Ledger.Movement

/-!
# Outcome of a release

A deck that is released gives its copies back entry by entry before it is deleted.
The credits add up to what the deck holds of each card, so that its owner gains by
them exactly what the deletion takes away.
-/

namespace CardInventory

open Memory Storage

namespace Memory.Store

/-- The tables differ by a deck that is gone and whose copies its owner has got back. -/
structure Released (before after : Store) (deck : Uuid) : Prop where
  valid : after.Valid
  users : after.users = before.users
  cards : after.cards = before.cards
  decks : after.decks = before.decks.erase deck
  owned : ∀ user card, after.owned user card = before.owned user card
  copies : ∀ deck', deck' ≠ deck → after.copiesIn deck' = before.copiesIn deck'

/-- A deck that exists holds more copies of some card than its owner's binder has room for. -/
def Overfills (store : Store) (deck : Uuid) : Prop :=
  ∃ row card, store.decks.get? deck = some row ∧
    Width.greatest 32 < store.held row.owner card + store.inDeck deck card

theorem deleteDeck_clearDeck (store : Store) (deck : Uuid) :
    (store.clearDeck deck).deleteDeck deck = store.deleteDeck deck := by
  simp only [deleteDeck, clearDeck, Table.select_select]

/-- To credit what a deck holds and then to delete the deck is to release it. -/
theorem Moved.released {before between : Store} {deck : Uuid} {row : Deck}
    (found : before.decks.get? deck = some row)
    (moved : Moved before between
      (fun user card => if user = row.owner then before.inDeck deck card else 0) fun _ => 0)
    (entries : between.entries = before.entries) :
    Released before (between.deleteDeck deck) deck where
  valid := moved.valid.deleteDeck deck
  users := moved.users
  cards := moved.cards
  decks := congrArg (Table.erase · deck) moved.decks
  owned user card := by
    have same : between.inDeck deck card = before.inDeck deck card := by
      simp only [inDeck, placed, entries]
    rw [owned_deleteDeck moved.valid (moved.decks ▸ found), moved.owned, same]
    split <;> omega
  copies deck' different := by
    rw [copiesIn_deleteDeck moved.valid different, moved.copies, Int.add_zero]

/-- The decks that are left stay within their limits. -/
theorem Released.withinLimits {before after : Store} {deck : Uuid}
    (released : Released before after deck) (limits : before.WithinLimits) :
    after.WithinLimits := by
  intro other row limit found limited
  rw [released.decks, Table.get?_erase_eq_ite] at found
  split at found
  · simp at found
  · rename_i different
    rw [released.copies other different]
    exact limits found limited

/-! ## Credits one after another -/

section Credits

variable (store : Store) (owner user card : Uuid) (entry : DeckEntry) (rest : List DeckEntry)

/-- Copies that have been credited are no longer among those to be credited. -/
theorem held_hold_add_copiesOf (time : Instant) :
    (store.hold owner entry.card (store.held owner entry.card + entry.quantity) time).held owner
        card + copiesOf card rest =
      store.held owner card + copiesOf card (entry :: rest) := by
  rw [held_hold, copiesOf_cons]
  by_cases same : card = entry.card
  · subst same
    simp only [and_self, if_true]
    omega
  · simp [same, Ne.symm same]

/-- What a user gains by the first credit and by the others. -/
theorem gained_cons :
    (if user = owner ∧ card = entry.card then entry.quantity else 0) +
        (if user = owner then copiesOf card rest else 0) =
      if user = owner then copiesOf card (entry :: rest) else 0 := by
  rw [copiesOf_cons]
  by_cases own : user = owner
  · by_cases same : card = entry.card
    · simp only [own, same, and_self, if_true]
    · simp [own, same, Ne.symm same]
  · simp [own]

end Credits

/-- A credit that is refused for its number leaves no room for further copies either. -/
theorem lt_held_add_copiesOf {store : Store} {owner : Uuid} {entry : DeckEntry}
    {rest : List DeckEntry} {failure : Ledger.Failure}
    (refused : store.creditRefusal owner entry.card entry.quantity = some failure)
    (large : failure.cannotGrow = true) (positive : ∀ other ∈ rest, 0 < other.quantity) :
    Width.greatest 32 < store.held owner entry.card + copiesOf entry.card (entry :: rest) := by
  have beyond := creditRefusal_large refused large
  have others : 0 ≤ copiesOf entry.card rest := copiesOf_nonneg positive
  rw [copiesOf_cons, if_pos rfl]
  omega

end Memory.Store

namespace Ledger

variable {moments : Nat → Moment} {store : Store} {drawn : Nat}

/-- Credits to a user who exists, of cards that exist, add up, unless a holding grows too large. -/
theorem creditAll_ends (valid : store.Valid) {owner : Uuid} {entries : List DeckEntry}
    (userExists : store.users.contains owner = true)
    (known : ∀ entry ∈ entries, store.cards.contains entry.card = true ∧ 0 < entry.quantity) :
    (creditAll owner entries).Ends (answerNext moments) .storage ⟨store, drawn⟩
      (fun _ after =>
        Store.Moved store after.store
            (fun user card => if user = owner then Store.copiesOf card entries else 0)
            (fun _ => 0) ∧
          after.store.entries = store.entries ∧
          ∀ card, store.held owner card + Store.copiesOf card entries ≤ Width.greatest 32)
      (fun failure _ => failure.cannotGrow = true ∧
        ∃ card, Width.greatest 32 < store.held owner card + Store.copiesOf card entries) := by
  induction entries generalizing store drawn with
  | nil =>
      have nothing : ∀ card, Store.copiesOf card [] = 0 := fun _ => by simp [Store.copiesOf]
      refine (Procedure.ends_pure ()).mpr
        ⟨(Store.Moved.refl valid).congr (fun user card => ?_) fun _ => rfl, rfl, fun card => ?_⟩
      · rw [nothing, ite_self]
      · rw [nothing, Int.add_zero]
        exact valid.held_le owner card
  | cons entry rest ih =>
      obtain ⟨⟨cardExists, positive⟩, others⟩ := List.forall_mem_cons.mp known
      simp only [creditAll, Procedure.ends_bind]
      apply (credit_ends valid owner entry.card entry.quantity).mono
      · rintro _ ⟨_, drawn⟩ ⟨accepted, credited, -, same⟩
        obtain rfl : store.hold owner entry.card _ credited = _ := same.symm
        have first := valid.moved_credited accepted credited
        have sums (card : Uuid) := store.held_hold_add_copiesOf owner card entry rest credited
        apply (ih first.valid userExists others).mono
        · rintro _ after ⟨onward, entries, room⟩
          have gains (user card : Uuid) := Store.gained_cons owner user card entry rest
          exact ⟨(first.trans onward).congr gains fun _ => rfl, entries,
            fun card => sums card ▸ room card⟩
        · rintro failure after ⟨large, card, beyond⟩
          exact ⟨large, card, sums card ▸ beyond⟩
      · rintro failure after ⟨refused, -⟩
        have large := Store.creditRefusal_cannotGrow positive userExists cardExists refused
        exact ⟨large, entry.card, Store.lt_held_add_copiesOf refused large fun other member =>
          (others other member).2⟩

/-- A deck that exists is released just where its owner's binder has room for its copies. -/
theorem releaseDeck_ends (valid : store.Valid) (deck : Uuid) :
    (releaseDeck deck).Ends (answerNext moments) .storage ⟨store, drawn⟩
      (fun _ after => (∃ row, store.decks.get? deck = some row) ∧
        Store.Released store after.store deck ∧ ¬ store.Overfills deck)
      (fun failure after =>
        (failure.cannotGrow = true ∧ store.Overfills deck) ∨
          failure = .notFound .deck deck.text ∧ store.decks.get? deck = none ∧
            after.store = store) := by
  simp only [releaseDeck, Procedure.ends_bind, ends_lockDeck valid]
  cases found : store.decks.get? deck with
  | none => simp
  | some row =>
      simp only [ends_ask (.entriesOfDeck deck), Store.answer]
      have perm := List.mergeSort_perm (store.entriesOf deck) releaseOrder
      have known : ∀ entry ∈ (store.entriesOf deck).mergeSort releaseOrder,
          store.cards.contains entry.card = true ∧ 0 < entry.quantity := by
        intro entry member
        have listed := (Store.mem_entriesOf.mp (perm.mem_iff.mp member)).1
        obtain ⟨key, stored⟩ := Table.mem_values.mp listed
        have sound := valid.entries stored
        have entryCard : entry.card = key.card := congrArg EntryKey.card sound.keyed
        exact ⟨entryCard ▸ sound.card, sound.quantity.1⟩
      have returned : ∀ card, Store.copiesOf card ((store.entriesOf deck).mergeSort releaseOrder) =
          store.inDeck deck card := fun card => by
        rw [Store.copiesOf_perm card perm, Store.copiesOf_entriesOf valid]
      apply (creditAll_ends valid (valid.decks found).owner known).mono
      · rintro _ ⟨credited, drawn⟩ ⟨moved, entries, room⟩
        have present : credited.decks.contains deck = true :=
          Table.contains_of_get? (moved.decks ▸ found)
        simp only [ends_ask (.clearDeck deck), ends_ask (.deleteDeck deck), Store.answer,
          ends_ensure, Procedure.ends_pure]
        have present' : (credited.clearDeck deck).decks.contains deck = true := present
        rw [if_pos present', Store.deleteDeck_clearDeck]
        refine ⟨⟨row, rfl⟩, Store.Moved.released found (moved.congr (fun user card => ?_)
          fun _ => rfl) entries, ?_⟩
        · rw [returned]
        · rintro ⟨row', card, found', beyond⟩
          obtain rfl := Option.some.inj (found.symm.trans found')
          exact absurd (returned card ▸ room card) (Int.not_le.mpr beyond)
      · rintro failure after ⟨large, card, beyond⟩
        exact .inl ⟨large, row, card, found, returned card ▸ beyond⟩

end Ledger

end CardInventory
