import CardInventory.Memory.Depot
import CardInventory.Proofs.Memory.Table
import Mathlib.Data.List.Sort

/-!
# Tables up to times of change

Every row of a binder and of a deck carries the time of its last change. Tables that
differ in nothing but these times become equal when the times are erased. A table is
determined by its look-ups, so that rows which look up the same without their times
are listed the same, too.
-/

namespace CardInventory

/-- A binder entry without the time of its last change. -/
def BinderEntry.untimed (entry : BinderEntry) : BinderEntry :=
  { entry with updatedAt := default }

/-- A deck without the time of its last change. -/
def Deck.untimed (deck : Deck) : Deck :=
  { deck with updatedAt := default }

/-- A deck entry without the time of its last change. -/
def DeckEntry.untimed (entry : DeckEntry) : DeckEntry :=
  { entry with updatedAt := default }

theorem BinderEntry.untimed_eq_iff {entry other : BinderEntry} :
    entry.untimed = other.untimed ↔ ∃ time, other = { entry with updatedAt := time } := by
  cases entry
  cases other
  simp [untimed, eq_comm]

theorem Deck.untimed_eq_iff {deck other : Deck} :
    deck.untimed = other.untimed ↔ ∃ time, other = { deck with updatedAt := time } := by
  cases deck
  cases other
  simp [untimed, eq_comm]

theorem DeckEntry.untimed_eq_iff {entry other : DeckEntry} :
    entry.untimed = other.untimed ↔ ∃ time, other = { entry with updatedAt := time } := by
  cases entry
  cases other
  simp [untimed, eq_comm]

namespace Memory

namespace Table

variable {κ α β : Type} [Ranked κ]

/-- A table with each of its rows changed, under the same keys. -/
def map (change : α → β) (table : Table κ α) : Table κ β :=
  ⟨table.rows.map (Prod.map id change), List.pairwise_map.mpr table.ascending⟩

theorem lookup_map (change : α → β) (key : κ) (rows : List (κ × α)) :
    lookup key (rows.map (Prod.map id change)) = (lookup key rows).map change := by
  induction rows with
  | nil => rfl
  | cons head rest ih =>
      simp only [List.map_cons, Prod.map, lookup, id_eq]
      split
      · rfl
      · exact ih

theorem get?_map (change : α → β) (table : Table κ α) (key : κ) :
    (table.map change).get? key = (table.get? key).map change :=
  lookup_map change key table.rows

/-- Tables that look up the same under each key are equal. -/
theorem ext_get? {left right : Table κ α} (same : ∀ key, left.get? key = right.get? key) :
    left = right := by
  let earlier : κ × α → κ × α → Prop := fun first second =>
    Ranked.rank first.1 < Ranked.rank second.1
  have irrefl : Std.Irrefl earlier := ⟨fun entry => Nat.lt_irrefl _⟩
  have antisymm : Std.Antisymm earlier :=
    ⟨fun first second before after => absurd before (Nat.lt_asymm after)⟩
  have rows : left.rows = right.rows := by
    refine List.Pairwise.eq_of_mem_iff left.ascending right.ascending fun entry => ?_
    rw [← get?_eq_some_iff, ← get?_eq_some_iff, same]
  cases left
  cases right
  obtain rfl := rows
  rfl

theorem insert_insert (table : Table κ α) (key : κ) (row row' : α) :
    (table.insert key row).insert key row' = table.insert key row' :=
  ext_get? fun other => by
    simp only [get?_insert]
    split <;> rfl

/-- The look-ups of two tables agree, under some keys and in a part of each row. -/
def AgreeOn (on : κ → Prop) (part : α → β) (left right : Table κ α) : Prop :=
  ∀ ⦃key⦄, on key → (left.get? key).map part = (right.get? key).map part

variable {on : κ → Prop} {part : α → β} {left right : Table κ α}

theorem AgreeOn.contains_eq (agree : AgreeOn on part left right) {key : κ} (member : on key) :
    left.contains key = right.contains key := by
  have same := congrArg Option.isSome (agree member)
  rwa [Option.isSome_map, Option.isSome_map] at same

theorem AgreeOn.insert (agree : AgreeOn on part left right) (key : κ) {row row' : α}
    (rows : part row = part row') :
    AgreeOn on part (left.insert key row) (right.insert key row') := by
  intro other member
  rw [get?_insert, get?_insert]
  split
  · exact congrArg some rows
  · exact agree member

theorem AgreeOn.select (agree : AgreeOn on part left right) (keep : κ → Bool) :
    AgreeOn on part (left.select keep) (right.select keep) := by
  intro other member
  rw [get?_select, get?_select]
  split
  · exact agree member
  · rfl

theorem AgreeOn.erase (agree : AgreeOn on part left right) (key : κ) :
    AgreeOn on part (left.erase key) (right.erase key) :=
  agree.select _

/-- What is put under a key where tables need not agree does not matter. -/
theorem agreeOn_insert {key : κ} (outside : ¬on key) (row : α) :
    AgreeOn on part left (left.insert key row) := by
  intro other member
  have different : other ≠ key := fun same => outside (same ▸ member)
  rw [get?_insert_of_ne left different]

theorem agreeOn_select {keep : κ → Bool} (kept : ∀ key, on key → keep key = true) :
    AgreeOn on part left (left.select keep) := by
  intro other member
  rw [get?_select, if_pos (kept other member)]

theorem agreeOn_erase {key : κ} (outside : ¬on key) : AgreeOn on part left (left.erase key) := by
  intro other member
  have different : other ≠ key := fun same => outside (same ▸ member)
  rw [get?_erase_of_ne left different]

/-- Tables that agree under all keys are the same in that part. -/
theorem AgreeOn.map_eq (agree : AgreeOn (fun _ => True) part left right) :
    left.map part = right.map part := by
  refine ext_get? fun key => ?_
  rw [get?_map, get?_map]
  exact agree trivial

/-- Tables that agree under some keys have the same rows there, in one order. -/
theorem AgreeOn.map_select (agree : AgreeOn on part left right) {keep : κ → Bool}
    (kept : ∀ key, keep key = true → on key) :
    (left.select keep).map part = (right.select keep).map part := by
  refine ext_get? fun key => ?_
  rw [get?_map, get?_map, get?_select, get?_select]
  split
  · exact agree (kept key ‹_›)
  · rfl

end Table

/-- The tables without the times of the last changes. -/
def Store.untimed (store : Store) : Store :=
  { store with
    binder := store.binder.map BinderEntry.untimed
    decks := store.decks.map Deck.untimed
    entries := store.entries.map DeckEntry.untimed }

/-- The depot without the times of the last changes. -/
def Depot.untimed (depot : Depot) : Depot :=
  { depot with store := depot.store.untimed }

end Memory

end CardInventory
