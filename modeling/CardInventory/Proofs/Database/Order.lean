import CardInventory.Proofs.Database.Quiet
import CardInventory.Proofs.Database.Unit

/-!
# Order of locks

Decks are locked before anything else, those of one statement in ascending order. A
deck and its entries are touched only once the deck was found, an entry is written
only once it was read under a lock, and the entries of binders come in ascending order
as long as the server does not say of one deck that it has two owners.
-/

namespace CardInventory.Database

open Memory Storage Contract

/-- The rows of the decks that a statement has locked. -/
def Told.deckRows (told : Told) : List Deck :=
  match told.statement.lockedDecks?, told.verdict with
  | some ids, .accepted outcome =>
      match outcome.all Row.deck with
      | .ok rows => ids.filterMap fun id => rowOf? Deck.id id rows
      | .error _ => []
  | _, _ => []

/-- The rows of the decks that the statements of a trace have locked. -/
def deckRows (trace : Trace) : List Deck :=
  trace.flatMap Told.deckRows

/-- A deck was locked and its row was replied. -/
def Found (trace : Trace) (deck : Uuid) : Prop :=
  ∃ row ∈ deckRows trace, row.id = deck

/-- All rows that are replied for one deck name the same owner. -/
def SameOwners (trace : Trace) : Prop :=
  ∀ row ∈ deckRows trace, ∀ row' ∈ deckRows trace, row.id = row'.id → row.owner = row'.owner

instance (trace : Trace) : Decidable (SameOwners trace) :=
  inferInstanceAs (Decidable (∀ row ∈ deckRows trace, ∀ row' ∈ deckRows trace,
    row.id = row'.id → row.owner = row'.owner))

/-- The entry of a binder that a statement locks or changes. -/
def Statement.binderKey? (statement : Statement) : Option BinderKey :=
  match statement.access? with
  | some (.binder key, _) => some key
  | _ => none

/-- The entries of binders that the statements of a trace lock or change, in their order. -/
def binderKeys (trace : Trace) : List BinderKey :=
  trace.filterMap fun told => told.statement.binderKey?

/-- The entries of binders come in ascending order. -/
def BindersAscend (trace : Trace) : Prop :=
  (binderKeys trace).Pairwise fun earlier later => earlier.rank ≤ later.rank

instance (trace : Trace) : Decidable (BindersAscend trace) :=
  inferInstanceAs (Decidable (List.Pairwise _ _))

/-- An entry was read by a statement that locks it. -/
def ReadLocked (trace : Trace) (place : Place) : Prop :=
  ∃ told ∈ trace, told.statement.access? = some (place, .lock) ∧
    ∃ outcome, told.verdict = .accepted outcome

/-- An entry of a binder comes after all that were touched before. -/
def Ahead (trace : Trace) (key : BinderKey) : Prop :=
  SameOwners trace → ∀ earlier ∈ binderKeys trace, earlier.rank ≤ key.rank

/-- A statement keeps to the order of locks, given what came before it. -/
structure Orderly (before : Trace) (statement : Statement) : Prop where
  locks : ∀ ids, statement.lockedDecks? = some ids →
    ids.Pairwise (fun earlier later => earlier.rank < later.rank) ∧
      (Quiet before ∨ ∀ id ∈ ids, Found before id)
  deck : ∀ id, statement.deck? = some id → Found before id
  entry : ∀ place access, statement.access? = some (place, access) → access ≠ .lock →
    ReadLocked before place
  binder : ∀ key, statement.binderKey? = some key → Ahead before key

/-- The contract of the order of locks. -/
def orderly : Contract where
  permits := Orderly
  assumes := AnswersKey

variable {trace rest : Trace} {statement : Statement} {outcome : Outcome} {deck : Uuid}
  {place : Place} {access : Access} {key later : BinderKey}

/-! ## Decks -/

theorem deckRows_append (first second : Trace) :
    deckRows (first ++ second) = deckRows first ++ deckRows second :=
  List.flatMap_append

theorem deckRows_subset (rest : Trace) : deckRows trace ⊆ deckRows (trace ++ rest) := by
  rw [deckRows_append]
  exact List.subset_append_left _ _

theorem Found.append (found : Found trace deck) (rest : Trace) : Found (trace ++ rest) deck := by
  obtain ⟨row, member, same⟩ := found
  exact ⟨row, deckRows_subset rest member, same⟩

theorem SameOwners.of_append (same : SameOwners (trace ++ rest)) : SameOwners trace := by
  intro row member row' member'
  exact same row (deckRows_subset rest member) row' (deckRows_subset rest member')

theorem id_of_rowOf? {rows : List Deck} {row : Deck}
    (present : rowOf? Deck.id deck rows = some row) : row.id = deck := by
  simpa using List.find?_some present

theorem mem_deckRows {ids : List Uuid} {rows : List Deck} {row : Deck} (asked : deck ∈ ids)
    (readable : outcome.all Row.deck = .ok rows) (present : rowOf? Deck.id deck rows = some row) :
    row ∈ deckRows [⟨.lockDecks ids, .accepted outcome⟩] := by
  simp only [deckRows, List.flatMap_cons, List.flatMap_nil, List.append_nil, Told.deckRows,
    Statement.lockedDecks?, readable]
  exact List.mem_filterMap.mpr ⟨deck, asked, present⟩

/-! ## Entries of binders -/

/-- Entries of binders are ordered by user, and those of one user by card. -/
theorem rank_le_rank_iff {left right : BinderKey} :
    left.rank ≤ right.rank ↔
      left.user.rank < right.user.rank ∨
        left.user = right.user ∧ left.card.rank ≤ right.card.rank := by
  have leftCard := rank_lt left.card
  have rightCard := rank_lt right.card
  have users : left.user = right.user ↔ left.user.rank = right.user.rank :=
    ⟨congrArg Uuid.rank, Uuid.rank_injective⟩
  simp only [BinderKey.rank, Width.values_128, users] at leftCard rightCard ⊢
  omega

theorem binderKeys_append (first second : Trace) :
    binderKeys (first ++ second) = binderKeys first ++ binderKeys second :=
  List.filterMap_append

theorem binderKeys_of_quiet (quiet : Quiet trace) : binderKeys trace = [] := by
  rw [binderKeys, List.filterMap_eq_nil_iff]
  intro told member
  simp [Statement.binderKey?, Statement.access?_of_quiet (quiet told member)]

/-- A trace goes on without touching a binder. -/
def Still (trace after : Trace) : Prop :=
  ∃ rest, after = trace ++ rest ∧ binderKeys rest = []

theorem Still.trans {between after : Trace} (first : Still trace between)
    (second : Still between after) : Still trace after := by
  obtain ⟨rest, rfl, none⟩ := first
  obtain ⟨others, rfl, none'⟩ := second
  refine ⟨rest ++ others, List.append_assoc trace rest others, ?_⟩
  rw [binderKeys_append, none, none', List.append_nil]

theorem still_quiet (quiet : Quiet rest) : Still trace (trace ++ rest) :=
  ⟨rest, rfl, binderKeys_of_quiet quiet⟩

theorem still_singleton {told : Told} (none : told.statement.binderKey? = none) :
    Still trace (trace ++ [told]) :=
  ⟨[told], rfl, by simp [binderKeys, none]⟩

theorem Still.deckRows_subset {after : Trace} (still : Still trace after) :
    deckRows trace ⊆ deckRows after := by
  obtain ⟨rest, rfl, -⟩ := still
  exact Database.deckRows_subset rest

theorem Found.still {after : Trace} (found : Found trace deck) (still : Still trace after) :
    Found after deck := by
  obtain ⟨rest, rfl, -⟩ := still
  exact found.append rest

theorem Ahead.still {after : Trace} (ahead : Ahead trace key) (still : Still trace after) :
    Ahead after key := by
  obtain ⟨rest, rfl, none⟩ := still
  intro same
  rw [binderKeys_append, none, List.append_nil]
  exact ahead same.of_append

theorem Ahead.trans (ahead : Ahead trace key) (ordered : key.rank ≤ later.rank) :
    Ahead trace later := by
  intro same earlier member
  exact Nat.le_trans (ahead same earlier member) ordered

theorem ahead_of_quiet (quiet : Quiet trace) : Ahead trace key := by
  intro _ earlier member
  rw [binderKeys_of_quiet quiet] at member
  cases member

/-- An entry that is touched once more does not come before itself. -/
theorem Ahead.append_singleton {told : Told} (ahead : Ahead trace key)
    (own : told.statement.binderKey? = some key) : Ahead (trace ++ [told]) key := by
  intro same earlier member
  rw [binderKeys_append, List.mem_append] at member
  rcases member with before | last
  · exact ahead same.of_append earlier before
  · have only : earlier = key := by simpa [binderKeys, own] using last
    exact Nat.le_of_eq (congrArg BinderKey.rank only)

/-! ## Locked reads -/

theorem readLocked_append_singleton (locks : statement.access? = some (place, .lock)) :
    ReadLocked (trace ++ [⟨statement, .accepted outcome⟩]) place :=
  ⟨_, List.mem_append_right trace List.mem_cons_self, locks, outcome, rfl⟩

/-! ## Permitted statements -/

theorem orderly_lenient : orderly.Lenient := by
  intro trace statement quiet
  have none := Statement.access?_of_quiet quiet
  refine ⟨?_, ?_, ?_, ?_⟩
  · simp [Statement.lockedDecks?_of_quiet quiet]
  · simp [Statement.deck?_of_quiet quiet]
  · simp [none]
  · simp [Statement.binderKey?, none]

theorem permits_lockDecks {ids : List Uuid}
    (ascending : ids.Pairwise fun earlier later => earlier.rank < later.rank)
    (first : Quiet trace ∨ ∀ id ∈ ids, Found trace id) :
    orderly.permits trace (.lockDecks ids) where
  locks := by
    rintro _ ⟨⟩
    exact ⟨ascending, first⟩
  deck := by rintro _ ⟨⟩
  entry := by rintro _ _ ⟨⟩
  binder := by rintro _ ⟨⟩

theorem permits_binder (touches : statement.access? = some (.binder key, access))
    (ahead : Ahead trace key) (read : access = .lock ∨ ReadLocked trace (.binder key)) :
    orderly.permits trace statement where
  locks := by simp [Statement.lockedDecks?_of_access touches]
  deck := by simp [Statement.deck?_of_binder touches]
  entry := by
    intro place' access' touches' changes
    obtain ⟨rfl, rfl⟩ : Place.binder key = place' ∧ access = access' := by
      simpa [touches] using touches'
    exact read.resolve_left changes
  binder := by
    intro key' own
    obtain rfl : key = key' := by simpa [Statement.binderKey?, touches] using own
    exact ahead

theorem permits_zone {entry : EntryKey} (touches : statement.access? = some (.zone entry, access))
    (found : Found trace entry.deck) (read : access = .lock ∨ ReadLocked trace (.zone entry)) :
    orderly.permits trace statement where
  locks := by simp [Statement.lockedDecks?_of_access touches]
  deck := by
    intro id own
    obtain rfl : entry.deck = id := by simpa [Statement.deck?_of_zone touches] using own
    exact found
  entry := by
    intro place' access' touches' changes
    obtain ⟨rfl, rfl⟩ : Place.zone entry = place' ∧ access = access' := by
      simpa [touches] using touches'
    exact read.resolve_left changes
  binder := by
    intro key' own
    simp [Statement.binderKey?, touches] at own

/-- A statement that changes a deck, or deletes all its entries. -/
theorem permits_deck (none : statement.access? = none) (free : statement.lockedDecks? = .none)
    (own : statement.deck? = some deck) (found : Found trace deck) :
    orderly.permits trace statement where
  locks := by simp [free]
  deck := by
    intro id own'
    obtain rfl : deck = id := by simpa [own] using own'
    exact found
  entry := by simp [none]
  binder := by simp [Statement.binderKey?, none]

/-! ## Ascending identifiers -/

theorem mem_insertAscending {id other : Uuid} {ids : List Uuid} :
    other ∈ insertAscending id ids ↔ other = id ∨ other ∈ ids := by
  induction ids with
  | nil => simp [insertAscending]
  | cons head rest ih =>
      rw [insertAscending]
      split
      · rw [List.mem_cons]
      · split
        · rename_i same
          simp [same]
        · rw [List.mem_cons, ih, List.mem_cons]
          exact or_left_comm

theorem mem_ascending {id : Uuid} {ids : List Uuid} : id ∈ ascending ids ↔ id ∈ ids := by
  induction ids with
  | nil => rfl
  | cons head rest ih => rw [ascending, List.foldr_cons, mem_insertAscending, List.mem_cons, ← ih,
      ascending]

theorem pairwise_insertAscending {id : Uuid} {ids : List Uuid}
    (sorted : ids.Pairwise fun earlier later => earlier.rank < later.rank) :
    (insertAscending id ids).Pairwise fun earlier later => earlier.rank < later.rank := by
  induction ids with
  | nil => exact List.pairwise_singleton _ id
  | cons head rest ih =>
      obtain ⟨least, sortedRest⟩ := List.pairwise_cons.mp sorted
      rw [insertAscending]
      split
      · rename_i smaller
        refine List.pairwise_cons.mpr ⟨?_, sorted⟩
        intro other member
        rcases List.mem_cons.mp member with rfl | member
        · exact smaller
        · exact Nat.lt_trans smaller (least other member)
      · rename_i notSmaller
        split
        · exact sorted
        · rename_i different
          refine List.pairwise_cons.mpr ⟨?_, ih sortedRest⟩
          intro other member
          rcases mem_insertAscending.mp member with rfl | member
          · have apart : other.rank ≠ head.rank :=
              fun ranks => different (Uuid.rank_injective ranks)
            omega
          · exact least other member

/-- The identifiers of a statement that locks decks are strictly ascending. -/
theorem pairwise_ascending (ids : List Uuid) :
    (ascending ids).Pairwise fun earlier later => earlier.rank < later.rank := by
  induction ids with
  | nil => exact List.Pairwise.nil
  | cons head rest ih => exact pairwise_insertAscending ih

end CardInventory.Database
