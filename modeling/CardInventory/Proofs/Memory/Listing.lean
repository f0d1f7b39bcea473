import CardInventory.Proofs.Memory.Scan
import Mathlib.Data.List.Nodup

/-!
# Listings of a deck

The entries a listing of a deck gives are those a scan of it meets. No two of them are
for one card and zone, so that a listing has the row of a card and a zone just where
the table has it, and once.
-/

namespace CardInventory.Memory.Store

/-- The place of an entry in its deck. -/
def slot (entry : DeckEntry) : Uuid × Zone :=
  (entry.card, entry.zone)

variable {store : Store}

theorem mem_scanDeck {deck : Uuid} {entry : DeckEntry} (member : entry ∈ store.scanDeck deck) :
    ∃ key, store.entries.get? key = some entry ∧ key.deck = deck := by
  rw [scanDeck_eq_filter] at member
  obtain ⟨row, stored, rfl⟩ := List.mem_map.mp member
  obtain ⟨stored, own⟩ := List.mem_filter.mp stored
  exact ⟨row.1, Table.get?_eq_some_iff.mpr stored, of_decide_eq_true own⟩

theorem scanDeck_quantity (valid : store.Valid) {deck : Uuid} {entry : DeckEntry}
    (member : entry ∈ store.scanDeck deck) : Storable entry.quantity := by
  obtain ⟨key, found, -⟩ := mem_scanDeck member
  exact (valid.entries found).quantity

/-- A deck has at most one entry for each card and zone. -/
theorem nodup_scanDeck (valid : store.Valid) (deck : Uuid) :
    ((store.scanDeck deck).map slot).Nodup := by
  rw [scanDeck_eq_filter, List.map_map]
  refine List.pairwise_map.mpr (List.Pairwise.imp_of_mem ?_ (store.entries.ascending.filter _))
  intro left right leftMember rightMember ordered same
  obtain ⟨leftStored, leftOwn⟩ := List.mem_filter.mp leftMember
  obtain ⟨rightStored, rightOwn⟩ := List.mem_filter.mp rightMember
  have leftKeyed := (valid.entries (Table.get?_eq_some_iff.mpr leftStored)).keyed
  have rightKeyed := (valid.entries (Table.get?_eq_some_iff.mpr rightStored)).keyed
  -- Keys of one deck that agree on the card and the zone are one key.
  have decks : left.1.deck = right.1.deck :=
    (of_decide_eq_true leftOwn).trans (of_decide_eq_true rightOwn).symm
  obtain ⟨cards, zones⟩ := Prod.mk.inj same
  have keys : left.1 = right.1 := by
    rw [← leftKeyed, ← rightKeyed] at decks ⊢
    exact congr (congr (congrArg EntryKey.mk decks) cards) zones
  exact absurd (congrArg Ranked.rank keys) (Nat.ne_of_lt ordered)

/-- The listing of a deck holds what a scan of it meets. -/
theorem entriesOf_perm (valid : store.Valid) (deck : Uuid) :
    (store.entriesOf deck).Perm (store.scanDeck deck) := by
  refine (List.mergeSort_perm _ _).trans (List.Perm.of_eq ?_)
  rw [scanDeck_eq_filter, Table.values, List.filter_map]
  refine congrArg (List.map Prod.snd) (List.filter_congr fun row member => ?_)
  have keyed := (valid.entries (Table.get?_eq_some_iff.mpr member)).keyed
  have entryDeck : row.2.deck = row.1.deck := congrArg EntryKey.deck keyed
  simp only [Function.comp, entryDeck]

theorem entriesOf_quantity (valid : store.Valid) {deck : Uuid} {entry : DeckEntry}
    (member : entry ∈ store.entriesOf deck) : Storable entry.quantity :=
  scanDeck_quantity valid ((entriesOf_perm valid deck).mem_iff.mp member)

theorem mem_entriesOf_iff (valid : store.Valid) {deck : Uuid} {entry : DeckEntry} :
    entry ∈ store.entriesOf deck ↔
      store.entries.get? ⟨deck, entry.card, entry.zone⟩ = some entry := by
  rw [mem_entriesOf, Table.mem_values]
  constructor
  · rintro ⟨⟨key, found⟩, rfl⟩
    rw [(valid.entries found).keyed, found]
  · intro found
    exact ⟨⟨_, found⟩, congrArg EntryKey.deck (valid.entries found).keyed⟩

/-- In a list of which no two items have one image, an image picks its item alone. -/
theorem filter_eq_singleton {α β : Type} [DecidableEq β] {image : α → β} {items : List α}
    (distinct : (items.map image).Nodup) {item : α} (member : item ∈ items) :
    (items.filter fun other => image other = image item) = [item] := by
  induction items with
  | nil => cases member
  | cons head rest ih =>
      rw [List.map_cons, List.nodup_cons] at distinct
      obtain ⟨new, distinct⟩ := distinct
      have others : ∀ other ∈ rest, image other ≠ image head := fun other listed same =>
        new (same ▸ List.mem_map_of_mem listed)
      rcases List.mem_cons.mp member with rfl | later
      · rw [List.filter_cons_of_pos (by simp)]
        refine congrArg (item :: ·) (List.filter_eq_nil_iff.mpr fun other listed => ?_)
        simpa using others other listed
      · have different : ¬ image head = image item := (others item later).symm
        rw [List.filter_cons_of_neg (by simpa using different)]
        exact ih distinct later

/-- The listing of a deck has the row of a card and a zone just where the table has it. -/
theorem filter_entriesOf (valid : store.Valid) (deck card : Uuid) (zone : Zone) :
    ((store.entriesOf deck).filter fun entry => slot entry = (card, zone)) =
      (store.entries.get? ⟨deck, card, zone⟩).toList := by
  have distinct : ((store.entriesOf deck).map slot).Nodup :=
    ((entriesOf_perm valid deck).map slot).nodup_iff.mpr (nodup_scanDeck valid deck)
  cases found : store.entries.get? ⟨deck, card, zone⟩ with
  | none =>
      refine List.filter_eq_nil_iff.mpr fun entry member same => ?_
      obtain ⟨cards, zones⟩ := Prod.mk.inj (of_decide_eq_true same)
      have stored := (mem_entriesOf_iff valid).mp member
      rw [cards, zones, found] at stored
      cases stored
  | some entry =>
      have own : slot entry = (card, zone) := by
        have keyed := (valid.entries found).keyed
        exact Prod.ext (congrArg EntryKey.card keyed) (congrArg EntryKey.zone keyed)
      have member : entry ∈ store.entriesOf deck := by
        obtain ⟨cards, zones⟩ := Prod.mk.inj own
        rw [mem_entriesOf_iff valid, cards, zones, found]
      rw [← own, filter_eq_singleton distinct member]
      rfl

end CardInventory.Memory.Store
