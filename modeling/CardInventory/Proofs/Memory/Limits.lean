import CardInventory.Proofs.Memory.Movement

/-!
# Limits of decks

A deck with a capacity holds no more copies than the capacity allows. Movements
keep to this where what a deck grows by still fits, and a deck that is created,
changed or deleted keeps to it under the conditions that are checked then.
-/

namespace CardInventory.Memory.Store

/-- No deck holds more copies than its capacity allows. -/
def WithinLimits (store : Store) : Prop :=
  ∀ ⦃deck row limit⦄, store.decks.get? deck = some row → row.capacity = some limit →
    store.copiesIn deck ≤ limit

instance (store : Store) : Decidable store.WithinLimits :=
  decidable_of_iff
    (∀ row ∈ store.decks.rows, ∀ limit ∈ row.2.capacity, store.copiesIn row.1 ≤ limit) <| by
  constructor
  · intro rows deck row limit found limited
    exact rows _ (Table.get?_eq_some_iff.mp found) limit limited
  · intro limits row member limit limited
    exact limits (Table.get?_eq_some_iff.mpr member) limited

variable {store : Store}

/-- What both zones hold of a card is no more than what the deck holds. -/
theorem placed_add_le_copiesIn (valid : store.Valid) (deck card : Uuid) {source target : Zone}
    (different : source ≠ target) :
    store.placed deck card target + store.placed deck card source ≤ store.copiesIn deck := by
  have bound := inDeck_le_copiesIn valid deck card
  unfold inDeck at bound
  cases source <;> cases target
  · exact absurd rfl different
  · omega
  · omega
  · exact absurd rfl different

theorem placed_le_copiesIn (valid : store.Valid) (deck card : Uuid) (zone : Zone) :
    store.placed deck card zone ≤ store.copiesIn deck := by
  have main := valid.placed_nonneg deck card .main
  have sideboard := valid.placed_nonneg deck card .sideboard
  have bound := inDeck_le_copiesIn valid deck card
  unfold inDeck at bound
  cases zone <;> omega

theorem withinLimits_empty : Store.empty.WithinLimits := by
  intro deck row limit found
  simp [Store.empty] at found

/-- A movement stays within the limits where what each deck grows by still fits. -/
theorem Moved.withinLimits {after : Store} {gained : Uuid → Uuid → Int} {grown : Uuid → Int}
    (moved : Moved store after gained grown)
    (fits : ∀ ⦃deck row limit⦄, store.decks.get? deck = some row → row.capacity = some limit →
      store.copiesIn deck + grown deck ≤ limit) : after.WithinLimits := by
  intro deck row limit found limited
  rw [moved.decks] at found
  rw [moved.copies]
  exact fits found limited

/-- A deck may be stored whose capacity allows the copies it then holds. -/
theorem WithinLimits.insertDeck (limits : store.WithinLimits) {id : Uuid} {deck : Deck}
    (fits : ∀ limit, deck.capacity = some limit → store.copiesIn id ≤ limit) :
    WithinLimits { store with decks := store.decks.insert id deck } := by
  intro other row limit found limited
  simp only [Table.get?_insert_eq_ite] at found
  split at found
  · rename_i same
    obtain rfl := Option.some.inj found
    exact same ▸ fits limit limited
  · exact limits found limited

/-- The tables are valid, and no deck is over its limit. -/
structure Sound (store : Store) : Prop where
  valid : store.Valid
  limits : store.WithinLimits

theorem sound_empty : Store.empty.Sound :=
  ⟨valid_empty, withinLimits_empty⟩

end CardInventory.Memory.Store
