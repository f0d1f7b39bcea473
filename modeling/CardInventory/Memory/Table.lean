import CardInventory.Uuid
import CardInventory.Width
import CardInventory.Zone

/-!
# Tables

A table holds at most one row under each key, in the order of the keys. Keys are
ordered by a number that tells them apart, so a table is determined by the rows
it holds, however it came about. The main statements say what a look-up gives
after an insertion, an erasure and a selection.
-/

namespace CardInventory.Memory

/-- Keys that are told apart and ordered by a number. -/
class Ranked (κ : Type) where
  rank : κ → Nat
  rank_injective : ∀ {left right : κ}, rank left = rank right → left = right

instance : Ranked Uuid where
  rank := Uuid.rank
  rank_injective := Uuid.rank_injective

/-- The key of a binder entry. -/
structure BinderKey where
  user : Uuid
  card : Uuid
  deriving DecidableEq

/-- The key of a deck entry. -/
structure EntryKey where
  deck : Uuid
  card : Uuid
  zone : Zone
  deriving DecidableEq

/-- Binder entries are ordered by user, then by card. -/
def BinderKey.rank (key : BinderKey) : Nat :=
  key.user.rank * Width.values 128 + key.card.rank

/-- Deck entries are ordered by deck, then by card, then by zone. -/
def EntryKey.rank (key : EntryKey) : Nat :=
  (key.deck.rank * Width.values 128 + key.card.rank) * 2 + key.zone.rank

theorem rank_lt (id : Uuid) : id.rank < Width.values 128 :=
  id.bits.isLt

instance : Ranked BinderKey where
  rank := BinderKey.rank
  rank_injective {left right} ranks := by
    have leftCard := rank_lt left.card
    have rightCard := rank_lt right.card
    simp only [BinderKey.rank, Width.values_128] at ranks leftCard rightCard
    have users : left.user.rank = right.user.rank := by omega
    have cards : left.card.rank = right.card.rank := by omega
    cases left
    cases right
    exact congr (congrArg BinderKey.mk (Uuid.rank_injective users)) (Uuid.rank_injective cards)

instance : Ranked EntryKey where
  rank := EntryKey.rank
  rank_injective {left right} ranks := by
    have leftCard := rank_lt left.card
    have rightCard := rank_lt right.card
    have leftZone : left.zone.rank ≤ 1 := by cases left.zone <;> simp [Zone.rank]
    have rightZone : right.zone.rank ≤ 1 := by cases right.zone <;> simp [Zone.rank]
    simp only [EntryKey.rank, Width.values_128] at ranks leftCard rightCard
    have zones : left.zone.rank = right.zone.rank := by omega
    have decks : left.deck.rank = right.deck.rank := by omega
    have cards : left.card.rank = right.card.rank := by omega
    cases left
    cases right
    exact congr (congr (congrArg EntryKey.mk (Uuid.rank_injective decks))
      (Uuid.rank_injective cards)) (Zone.rank_injective zones)

/-- Rows in strictly ascending order of their keys. -/
def Ascending {κ α : Type} [Ranked κ] (rows : List (κ × α)) : Prop :=
  rows.Pairwise fun left right => Ranked.rank left.1 < Ranked.rank right.1

/-- Rows under keys, in the order of the keys. -/
structure Table (κ α : Type) [Ranked κ] where
  rows : List (κ × α)
  ascending : Ascending rows

namespace Table

variable {κ α : Type} [Ranked κ]

instance : EmptyCollection (Table κ α) where
  emptyCollection := ⟨[], .nil⟩

instance : Inhabited (Table κ α) :=
  ⟨∅⟩

/-- The rows without their keys. -/
def values (table : Table κ α) : List α :=
  table.rows.map Prod.snd

/-- The row under a key in a list of rows. -/
def lookup (key : κ) : List (κ × α) → Option α
  | [] => none
  | (other, row) :: rest =>
      if Ranked.rank key = Ranked.rank other then some row else lookup key rest

/-- The row under a key. -/
def get? (table : Table κ α) (key : κ) : Option α :=
  lookup key table.rows

/-- Whether there is a row under a key. -/
def contains (table : Table κ α) (key : κ) : Bool :=
  (table.get? key).isSome

/-- Put a row into a list of rows, in place of the one that has its key. -/
def insertRow (key : κ) (row : α) : List (κ × α) → List (κ × α)
  | [] => [(key, row)]
  | (other, old) :: rest =>
      if Ranked.rank key < Ranked.rank other then (key, row) :: (other, old) :: rest
      else if Ranked.rank key = Ranked.rank other then (key, row) :: rest
      else (other, old) :: insertRow key row rest

theorem mem_insertRow {key : κ} {row : α} {entry : κ × α} {rows : List (κ × α)}
    (member : entry ∈ insertRow key row rows) : entry = (key, row) ∨ entry ∈ rows := by
  induction rows with
  | nil => simpa [insertRow] using member
  | cons head rest ih =>
      simp only [insertRow] at member
      split at member
      · simpa using member
      · split at member
        · rcases List.mem_cons.mp member with rfl | later
          · exact .inl rfl
          · exact .inr (List.mem_cons_of_mem _ later)
        · rcases List.mem_cons.mp member with rfl | later
          · exact .inr List.mem_cons_self
          · rcases ih later with equal | old
            · exact .inl equal
            · exact .inr (List.mem_cons_of_mem _ old)

theorem ascending_insertRow (key : κ) (row : α) {rows : List (κ × α)} (sorted : Ascending rows) :
    Ascending (insertRow key row rows) := by
  induction rows with
  | nil => simp [insertRow, Ascending]
  | cons head rest ih =>
      have sortedRest : Ascending rest := (List.pairwise_cons.mp sorted).2
      have bound := (List.pairwise_cons.mp sorted).1
      simp only [insertRow]
      split
      · rename_i before
        refine List.pairwise_cons.mpr ⟨?_, sorted⟩
        intro entry member
        rcases List.mem_cons.mp member with rfl | later
        · exact before
        · exact Nat.lt_trans before (bound entry later)
      · split
        · rename_i same
          refine List.pairwise_cons.mpr ⟨?_, sortedRest⟩
          intro entry member
          exact same ▸ bound entry member
        · rename_i notBefore different
          refine List.pairwise_cons.mpr ⟨?_, ih sortedRest⟩
          intro entry member
          rcases mem_insertRow member with rfl | old
          · simp only
            omega
          · exact bound entry old

/-- Put a row under a key, in place of the one that was there. -/
def insert (table : Table κ α) (key : κ) (row : α) : Table κ α :=
  ⟨insertRow key row table.rows, ascending_insertRow key row table.ascending⟩

/-- Keep the rows whose keys satisfy a condition. -/
def select (keep : κ → Bool) (table : Table κ α) : Table κ α :=
  ⟨table.rows.filter fun entry => keep entry.1, table.ascending.filter _⟩

/-- Remove the row under a key. -/
def erase (table : Table κ α) (key : κ) : Table κ α :=
  table.select fun other => Ranked.rank other ≠ Ranked.rank key

/-- The number of rows. -/
def size (table : Table κ α) : Nat :=
  table.rows.length

@[simp]
theorem get?_empty (key : κ) : (∅ : Table κ α).get? key = none :=
  rfl

theorem lookup_insertRow (key other : κ) (row : α) (rows : List (κ × α)) :
    lookup other (insertRow key row rows) =
      if Ranked.rank other = Ranked.rank key then some row else lookup other rows := by
  induction rows with
  | nil => rfl
  | cons head rest ih =>
      simp only [insertRow]
      split
      · rfl
      · split
        · rename_i same
          by_cases hit : Ranked.rank other = Ranked.rank key
          · simp [lookup, hit]
          · simp [lookup, hit, same ▸ hit]
        · rename_i different
          simp only [lookup, ih]
          by_cases hit : Ranked.rank other = Ranked.rank key
          · simp [hit, different]
          · simp [hit]

/-- After an insertion the key has the new row and every other key what it had. -/
theorem get?_insert (table : Table κ α) (key other : κ) (row : α) :
    (table.insert key row).get? other =
      if Ranked.rank other = Ranked.rank key then some row else table.get? other :=
  lookup_insertRow key other row table.rows

theorem lookup_filter (keep : κ → Bool) (key : κ) (rows : List (κ × α))
    (decided : ∀ other : κ, Ranked.rank key = Ranked.rank other → keep other = keep key) :
    lookup key (rows.filter fun entry => keep entry.1) =
      if keep key then lookup key rows else none := by
  induction rows with
  | nil => simp [lookup]
  | cons head rest ih =>
      by_cases hit : Ranked.rank key = Ranked.rank head.1
      · by_cases kept : keep key
        · simp [decided head.1 hit, kept, lookup, hit]
        · simp [decided head.1 hit, kept, ih]
      · by_cases kept : keep head.1
        · simp [kept, lookup, hit, ih]
        · simp [kept, lookup, hit, ih]

/-- After a selection a key has its row if it is kept. -/
theorem get?_select (keep : κ → Bool) (table : Table κ α) (key : κ) :
    (table.select keep).get? key = if keep key then table.get? key else none := by
  refine lookup_filter keep key table.rows fun other ranks => ?_
  rw [Ranked.rank_injective ranks]

/-- After an erasure the key has no row and every other key what it had. -/
theorem get?_erase (table : Table κ α) (key other : κ) :
    (table.erase key).get? other =
      if Ranked.rank other = Ranked.rank key then none else table.get? other := by
  rw [erase, get?_select]
  by_cases hit : Ranked.rank other = Ranked.rank key <;> simp [hit]

end Table

end CardInventory.Memory
