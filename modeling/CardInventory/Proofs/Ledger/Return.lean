import CardInventory.Proofs.Ledger.Release
import CardInventory.Proofs.Ledger.Report
import CardInventory.Proofs.Memory.Arithmetic

/-!
# What a release returns

The entries of a released deck are credited one by one, in the order of cards, while
their quantities are added up by card for the report. The invariant of the credits
tells what the binder of the owner has gained so far and which of its rows have been
written; the totals have one member for each card of the entries.
-/

namespace CardInventory

open Memory Storage

namespace Memory.Store

/-- Entries have been credited to the binder of a user, and nothing else has changed. -/
structure Credited (before after : Store) (owner : Uuid) (credits : List DeckEntry) : Prop where
  users : after.users = before.users
  cards : after.cards = before.cards
  decks : after.decks = before.decks
  entries : after.entries = before.entries
  binder : ∀ key, (key.user = owner → ∀ entry ∈ credits, entry.card ≠ key.card) →
    after.binder.get? key = before.binder.get? key

theorem credited_withHolding (store : Store) (owner : Uuid) (entry : DeckEntry)
    (row : Option BinderEntry) :
    Credited store (store.withHolding owner entry.card row) owner [entry] where
  users := rfl
  cards := rfl
  decks := rfl
  entries := rfl
  binder key untouched := by
    have different : key ≠ ⟨owner, entry.card⟩ := by
      rintro rfl
      exact untouched rfl entry (List.mem_singleton_self entry) rfl
    exact Table.get?_put_of_ne _ different _

theorem Credited.cons {before between after : Store} {owner : Uuid} {entry : DeckEntry}
    {rest : List DeckEntry} (first : Credited before between owner [entry])
    (others : Credited between after owner rest) :
    Credited before after owner (entry :: rest) where
  users := others.users.trans first.users
  cards := others.cards.trans first.cards
  decks := others.decks.trans first.decks
  entries := others.entries.trans first.entries
  binder key untouched := by
    rw [others.binder key fun own other member =>
        untouched own other (List.mem_cons_of_mem _ member),
      first.binder key fun own other member =>
        untouched own other (List.mem_singleton.mp member ▸ List.mem_cons_self)]

/-- A deck is gone with its entries, its copies are in the binder of its owner, and the report
has them by card. -/
structure Returned (before after : Store) (deck : Uuid) (released : Ledger.ReleasedDeck) :
    Prop where
  row : before.decks.get? deck = some released.deck
  ordered : released.returned.Pairwise fun left right => left.1.rank < right.1.rank
  reported : ∀ card amount, (card, amount) ∈ released.returned ↔
    (∃ zone, before.entries.contains ⟨deck, card, zone⟩ = true) ∧
      amount = before.placed deck card .main + before.placed deck card .sideboard
  total : released.totalReturned = before.copiesIn deck
  deckGone : after.decks.get? deck = none
  entriesGone : ∀ card zone, after.entries.get? ⟨deck, card, zone⟩ = none
  credited : ∀ card amount, (card, amount) ∈ released.returned →
    after.held released.deck.owner card = before.held released.deck.owner card + amount
  binder : ∀ key, (key.user = released.deck.owner → ∀ amount,
    (key.card, amount) ∉ released.returned) → after.binder.get? key = before.binder.get? key
  decks : ∀ other, other ≠ deck → after.decks.get? other = before.decks.get? other
  entries : ∀ key, key.deck ≠ deck → after.entries.get? key = before.entries.get? key
  users : after.users = before.users
  cards : after.cards = before.cards

section Returned

variable {before after : Store} {deck : Uuid} {released : Ledger.ReleasedDeck}

/-- The binder of the owner holds of each card what it has held and what the report has of it. -/
theorem Returned.held_eq (returned : Returned before after deck released) (card : Uuid) :
    after.held released.deck.owner card =
      before.held released.deck.owner card + (released.returned.lookup card).getD 0 := by
  cases found : released.returned.lookup card with
  | some amount =>
      obtain ⟨before', after', whole, -⟩ := List.lookup_eq_some_iff.mp found
      exact returned.credited card amount (whole ▸ List.mem_append_cons_self)
  | none =>
      have absent : ∀ amount, (card, amount) ∉ released.returned := fun amount member =>
        bne_iff_ne.mp (List.lookup_eq_none_iff.mp found _ member) rfl
      have same := returned.binder ⟨released.deck.owner, card⟩ fun _ => absent
      simp only [held, same, Option.getD_none, Int.add_zero]

end Returned

end Memory.Store

namespace Ledger

variable {moments : Nat → Moment} {store : Store}

theorem creditAll_credits (owner : Uuid) (entries : List DeckEntry) :
    Reports moments store (creditAll owner entries) fun _ after =>
      Store.Credited store after owner entries := by
  induction entries generalizing store with
  | nil => exact .pure ⟨rfl, rfl, rfl, rfl, fun _ _ => rfl⟩
  | cons entry rest ih =>
      refine .bind (credit_reports owner entry.card entry.quantity) ?_
      rintro row _ ⟨-, rfl⟩
      exact Reports.mono ih fun _ _ others =>
        (store.credited_withHolding owner entry (some row)).cons others

/-- The cards of a deck's entries are those with a row in one of its zones. -/
theorem exists_entry_iff (valid : store.Valid) {deck card : Uuid} :
    (∃ entry ∈ (store.entriesOf deck).mergeSort releaseOrder, entry.card = card) ↔
      ∃ zone, store.entries.contains ⟨deck, card, zone⟩ = true := by
  simp only [List.mem_mergeSort, Store.mem_entriesOf_iff valid]
  constructor
  · rintro ⟨entry, found, rfl⟩
    exact ⟨entry.zone, Table.contains_of_get? found⟩
  · rintro ⟨zone, present⟩
    obtain ⟨entry, found⟩ := Table.contains_iff.mp present
    have keyed := (valid.entries found).keyed
    obtain ⟨-, rfl, rfl⟩ := EntryKey.mk.inj keyed
    exact ⟨entry, found, rfl⟩

/-- A release that succeeds returns the copies of the deck. -/
theorem releaseDeck_returns (valid : store.Valid) (deck : Uuid) :
    Reports moments store (releaseDeck deck) fun released after =>
      Store.Returned store after deck released := by
  refine .lockingDeck fun row found => .reading (fun _ => rfl) ?_
  refine .bind ((creditAll_reports row.owner _).and (creditAll_credits row.owner _)) ?_
  rintro _ credited ⟨sums, kept⟩
  have clearing : Reports moments credited (ask (.clearDeck deck)) fun _ after =>
      after = credited.clearDeck deck :=
    .ask fun _ _ _ answered => (Prod.mk.inj answered).2.symm
  refine clearing.bind ?_
  rintro _ _ rfl
  have deleting : Reports moments (credited.clearDeck deck) (ask (.deleteDeck deck))
      fun _ after => after = credited.deleteDeck deck :=
    .ask fun _ _ _ answered => (Prod.mk.inj answered).2 ▸ credited.deleteDeck_clearDeck deck
  refine deleting.bind ?_
  rintro _ _ rfl
  refine .ensuring fun _ => .pure ?_
  have perm := List.mergeSort_perm (store.entriesOf deck) releaseOrder
  have returned (card : Uuid) :
      Store.copiesOf card ((store.entriesOf deck).mergeSort releaseOrder) =
        store.inDeck deck card := by
    rw [Store.copiesOf_perm card perm, Store.copiesOf_entriesOf valid]
  constructor
  case row => exact found
  case ordered => exact pairwise_totalsByCard _
  case reported =>
    intro card amount
    rw [mem_totalsByCard, exists_entry_iff valid, returned]
    rfl
  case total =>
    calc totalOf ((totalsByCard _).map Prod.snd)
      _ = totalOf (((store.entriesOf deck).mergeSort releaseOrder).map DeckEntry.quantity) :=
        totalOf_totalsByCard _
      _ = totalOf ((store.entriesOf deck).map DeckEntry.quantity) := totalOf_perm (perm.map _)
      _ = store.deckTotal deck := Store.totalOf_entriesOf valid deck
      _ = store.copiesIn deck := Store.deckTotal_eq_copiesIn valid deck
  case deckGone => exact Table.get?_erase_self ..
  case entriesGone =>
    intro card zone
    simp [Store.deleteDeck, Store.clearDeck, Table.get?_select]
  case credited =>
    intro card amount member
    exact (sums card).trans (copiesOf_of_mem_totalsByCard member ▸ rfl)
  case binder =>
    intro key absent
    refine kept.binder key fun own entry member same => ?_
    exact absent own _ (mem_totalsByCard.mpr ⟨⟨entry, member, same⟩, rfl⟩)
  case decks =>
    intro other different
    exact kept.decks ▸ Table.get?_erase_of_ne _ different
  case entries =>
    intro key different
    simp [Store.deleteDeck, Store.clearDeck, Table.get?_select, different, kept.entries]
  case users => exact kept.users
  case cards => exact kept.cards

end Ledger

end CardInventory
