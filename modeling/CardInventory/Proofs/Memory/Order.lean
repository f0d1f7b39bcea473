import CardInventory.Proofs.Memory.Listing
import CardInventory.Proofs.Text.Order
import Mathlib.Data.Prod.Lex
import Mathlib.Data.String.Basic

/-!
# Ordered listings

A listing compares what it lists by a key of its own: printings and holdings by name, decks
by age, deck entries by zone. Where no two items have one key the listing has them in a
strict order, and there is one such list only, in whatever order the items came. So it is
with the rows of valid tables, whose identifiers settle what names and times leave open.
-/

namespace CardInventory.Memory

open Text

/-- A list of all items with a property, each once, in a strict order. -/
structure Enumerates {α : Type} (property : α → Prop) (before : α → α → Prop) (items : List α) :
    Prop where
  complete : ∀ item, item ∈ items ↔ property item
  once : items.Nodup
  ordered : items.Pairwise before

/-! ## Sorting by a key -/

section Keys

variable {α β : Type} [LinearOrder β] {compare : α → α → Bool} {key : α → β} {items : List α}

/-- A comparison is that of the keys of two items. -/
def ComparesBy (compare : α → α → Bool) (key : α → β) : Prop :=
  ∀ left right, compare left right = true ↔ key left ≤ key right

namespace ComparesBy

theorem pairwise_mergeSort (compares : ComparesBy compare key) (items : List α) :
    (items.mergeSort compare).Pairwise fun left right => key left ≤ key right := by
  have sorted : (items.mergeSort compare).Pairwise (compare · ·) := by
    apply List.pairwise_mergeSort
    · intro first second third
      simp only [compares _ _]
      exact le_trans
    · intro left right
      simp only [Bool.or_eq_true, compares _ _]
      exact le_total _ _
  exact sorted.imp fun ordered => (compares _ _).mp ordered

/-- Items of which no two have one key are sorted strictly. -/
theorem pairwise_lt_mergeSort (compares : ComparesBy compare key)
    (distinct : (items.map key).Nodup) :
    (items.mergeSort compare).Pairwise fun left right => key left < key right := by
  have keys : ((items.mergeSort compare).map key).Nodup :=
    ((List.mergeSort_perm items compare).map key).nodup_iff.mpr distinct
  exact (compares.pairwise_mergeSort items).imp₂ (fun _ _ ordered different =>
    lt_of_le_of_ne ordered different) (List.pairwise_map.mp keys)

/-- Items of which no two have one key are sorted into one list, however they come. -/
theorem mergeSort_eq (compares : ComparesBy compare key) (distinct : (items.map key).Nodup)
    {others : List α} (perm : others.Perm items) :
    others.mergeSort compare = items.mergeSort compare := by
  have sorted := (List.mergeSort_perm others compare).trans
    (perm.trans (List.mergeSort_perm items compare).symm)
  refine List.Perm.eq_of_pairwise ?_ (compares.pairwise_mergeSort others)
    (compares.pairwise_mergeSort items) sorted
  intro left right leftMember rightMember forward backward
  have leftItem := perm.mem_iff.mp (List.mem_mergeSort.mp leftMember)
  exact List.inj_on_of_nodup_map distinct leftItem (List.mem_mergeSort.mp rightMember)
    (le_antisymm forward backward)

/-- To sort items of which no two have one key is to list each of them once. -/
theorem enumerates (compares : ComparesBy compare key) (distinct : (items.map key).Nodup)
    {property : α → Prop} {before : α → α → Prop} (listed : ∀ item, item ∈ items ↔ property item)
    (strict : ∀ left right, key left < key right ↔ before left right) :
    Enumerates property before (items.mergeSort compare) where
  complete item := List.mem_mergeSort.trans (listed item)
  once := (List.mergeSort_perm items compare).nodup_iff.mpr (.of_map key distinct)
  ordered := (compares.pairwise_lt_mergeSort distinct).imp fun ordered => (strict _ _).mp ordered

end ComparesBy

end Keys

/-! ## Rows of tables -/

namespace Table

variable {κ α : Type} [Ranked κ]

/-- Rows that carry their keys are told apart by what they carry. -/
theorem nodup_values {carried : α → κ} {table : Table κ α}
    (keyed : table.Forall fun key row => carried row = key) :
    (table.values.map carried).Nodup := by
  rw [values, List.map_map]
  refine List.pairwise_map.mpr (List.Pairwise.imp_of_mem ?_ table.ascending)
  intro left right leftMember rightMember ordered same
  have leftKeyed := keyed (get?_eq_some_iff.mpr leftMember)
  have rightKeyed := keyed (get?_eq_some_iff.mpr rightMember)
  have keys : left.1 = right.1 := leftKeyed.symm.trans (same.trans rightKeyed)
  exact absurd (congrArg Ranked.rank keys) (Nat.ne_of_lt ordered)

/-- Rows that carry their keys are stored under what they carry. -/
theorem mem_values_iff {carried : α → κ} {table : Table κ α}
    (keyed : table.Forall fun key row => carried row = key) {row : α} :
    row ∈ table.values ↔ table.get? (carried row) = some row := by
  rw [mem_values]
  constructor
  · rintro ⟨key, found⟩
    rw [keyed found, found]
  · exact fun found => ⟨_, found⟩

end Table

namespace Store

variable {store : Store}

/-! ## By name -/

section Names

variable {α : Type} {name : α → String} {id : α → Uuid}

/-- One name comes before another, byte by byte, or of one name one identifier before another. -/
def precedes (name : α → String) (id : α → Uuid) (left right : α) : Prop :=
  bytesOf (name left) < bytesOf (name right) ∨
    name left = name right ∧ (id left).rank < (id right).rank

end Names

section Cards

variable (valid : store.Valid) (filter : Filter)

include valid

end Cards

section Holdings

variable (valid : store.Valid) (user : Uuid) (filter : Filter)

include valid

end Holdings

/-! ## By age -/

/-- One deck is newer than another, or of one age one identifier comes before another. -/
def newer (left right : DeckSummary) : Prop :=
  right.deck.createdAt.earlier left.deck.createdAt = true ∨
    left.deck.createdAt = right.deck.createdAt ∧ left.deck.id.rank < right.deck.id.rank

/-- What is compared by age. -/
def ageKey (summary : DeckSummary) : (Int ×ₗ Nat)ᵒᵈ ×ₗ Nat :=
  toLex (OrderDual.toDual (toLex (summary.deck.createdAt.seconds, summary.deck.createdAt.nanos)),
    summary.deck.id.rank)

theorem earlier_iff {left right : Instant} :
    left.earlier right = true ↔
      toLex (left.seconds, left.nanos) < toLex (right.seconds, right.nanos) := by
  simp [Instant.earlier, Prod.Lex.lt_iff]

theorem instant_eq_iff {left right : Instant} :
    left = right ↔ toLex (left.seconds, left.nanos) = toLex (right.seconds, right.nanos) := by
  cases left
  cases right
  simp

theorem newestFirst_comparesBy : ComparesBy newestFirst ageKey := by
  intro left right
  simp only [newestFirst, ageKey, Prod.Lex.le_iff, Bool.or_eq_true, Bool.and_eq_true,
    decide_eq_true_eq, earlier_iff, instant_eq_iff, ofLex_toLex, OrderDual.toDual_lt_toDual,
    OrderDual.toDual_inj]

theorem ageKey_lt_iff {left right : DeckSummary} :
    ageKey left < ageKey right ↔ newer left right := by
  simp only [newer, ageKey, Prod.Lex.lt_iff, earlier_iff, instant_eq_iff, ofLex_toLex,
    OrderDual.toDual_lt_toDual, OrderDual.toDual_inj]

section Decks

variable (valid : store.Valid) (owner : Uuid)

include valid

theorem nodup_owned_ids :
    (((store.decks.values.filter fun deck => deck.owner = owner).map fun deck =>
      DeckSummary.mk deck (store.deckTotal deck.id)).map fun summary => summary.deck.id).Nodup := by
  have keyed : store.decks.Forall fun id deck => deck.id = id :=
    valid.decks.mono fun _ _ sound => sound.keyed
  rw [List.map_map]
  exact (Table.nodup_values keyed).sublist (List.filter_sublist.map _)

/-- No deck is listed twice. -/
theorem nodup_summary_ids : ((store.summaries owner).map fun summary => summary.deck.id).Nodup :=
  ((List.mergeSort_perm _ newestFirst).map _).nodup_iff.mpr (nodup_owned_ids valid owner)

theorem nodup_summaries :
    (((store.decks.values.filter fun deck => deck.owner = owner).map fun deck =>
      DeckSummary.mk deck (store.deckTotal deck.id)).map ageKey).Nodup := by
  have distinct := List.pairwise_map.mp (nodup_owned_ids valid owner)
  refine List.pairwise_map.mpr (distinct.imp fun different same => ?_)
  exact different (Uuid.rank_injective (congrArg (fun key => (ofLex key).2) same))

/-- The decks of a user are listed by age, each with the copies in it. -/
theorem enumerates_summaries :
    Enumerates
      (fun summary => store.decks.get? summary.deck.id = some summary.deck ∧
        summary.deck.owner = owner ∧ summary.cardCount = store.copiesIn summary.deck.id)
      newer (store.summaries owner) := by
  have keyed : store.decks.Forall fun id deck => deck.id = id :=
    valid.decks.mono fun _ _ sound => sound.keyed
  refine newestFirst_comparesBy.enumerates (nodup_summaries valid owner) (fun summary => ?_)
    fun _ _ => ageKey_lt_iff
  simp only [List.mem_map, List.mem_filter, Table.mem_values_iff keyed, decide_eq_true_eq,
    deckTotal_eq_copiesIn valid]
  constructor
  · rintro ⟨deck, ⟨found, rfl⟩, rfl⟩
    exact ⟨found, rfl, rfl⟩
  · rintro ⟨found, owned, counted⟩
    exact ⟨summary.deck, ⟨found, owned⟩, by rw [← counted]⟩

/-- The decks of a user are listed the same in whatever order the tables give them. -/
theorem summaries_of_perm {decks : List Deck} (perm : decks.Perm store.decks.values) :
    ((decks.filter fun deck => deck.owner = owner).map fun deck =>
        DeckSummary.mk deck (store.deckTotal deck.id)).mergeSort newestFirst =
      store.summaries owner :=
  newestFirst_comparesBy.mergeSort_eq (nodup_summaries valid owner) ((perm.filter _).map _)

end Decks

/-! ## By zone -/

/-- One zone comes before another, or in one zone one card before another. -/
def zoneBefore (left right : DeckEntry) : Prop :=
  left.zone.rank < right.zone.rank ∨ left.zone = right.zone ∧ left.card.rank < right.card.rank

/-- What is compared by zone. -/
def zoneKey (entry : DeckEntry) : Nat ×ₗ Nat :=
  toLex (entry.zone.rank, entry.card.rank)

theorem zone_eq_iff {left right : Zone} : left = right ↔ left.rank = right.rank :=
  ⟨congrArg _, Zone.rank_injective⟩

theorem byZone_comparesBy : ComparesBy byZone zoneKey := by
  intro left right
  simp [byZone, zoneKey, Prod.Lex.le_iff, zone_eq_iff]

theorem zoneKey_lt_iff {left right : DeckEntry} :
    zoneKey left < zoneKey right ↔ zoneBefore left right := by
  simp [zoneKey, zoneBefore, Prod.Lex.lt_iff, zone_eq_iff]

/-- The entries of a deck are listed by zone. -/
theorem enumerates_entriesOf (valid : store.Valid) (deck : Uuid) :
    Enumerates (fun entry => ∃ key, key.deck = deck ∧ store.entries.get? key = some entry)
      zoneBefore (store.entriesOf deck) := by
  have listing : (store.entries.values.filter fun entry => entry.deck = deck).Perm
      (store.scanDeck deck) :=
    (List.mergeSort_perm _ byZone).symm.trans (entriesOf_perm valid deck)
  have slots := (listing.map slot).nodup_iff.mpr (nodup_scanDeck valid deck)
  have distinct : ((store.entries.values.filter fun entry => entry.deck = deck).map
      zoneKey).Nodup := by
    refine List.pairwise_map.mpr ((List.pairwise_map.mp slots).imp fun different same => ?_)
    obtain ⟨zones, cards⟩ := Prod.mk.inj (congrArg ofLex same)
    exact different (Prod.ext (Uuid.rank_injective cards) (Zone.rank_injective zones))
  refine byZone_comparesBy.enumerates distinct (fun entry => ?_) fun _ _ => zoneKey_lt_iff
  rw [List.mem_filter, Table.mem_values, decide_eq_true_eq]
  constructor
  · rintro ⟨⟨key, found⟩, rfl⟩
    exact ⟨key, congrArg EntryKey.deck (valid.entries found).keyed.symm, found⟩
  · rintro ⟨key, rfl, found⟩
    exact ⟨⟨key, found⟩, congrArg EntryKey.deck (valid.entries found).keyed⟩

end Store

end CardInventory.Memory
