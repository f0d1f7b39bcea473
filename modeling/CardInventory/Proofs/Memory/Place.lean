import CardInventory.Proofs.Memory.Movement

/-!
# Places of copies

Copies of a card lie in the binders of users and in the zones of decks, each place
with a row of its own. A relocation takes copies from one place and puts as many
into another. Every other place keeps its number of copies, and its row unless the
copies have passed through it, so relocations that follow each other make up one.
-/

namespace CardInventory.Memory

/-- A place where copies of a card lie. -/
inductive Place where
  | binder (user card : Uuid)
  | zone (deck card : Uuid) (zone : Zone)
  deriving DecidableEq

namespace Store

/-- The row of a place. -/
def rowAt (store : Store) : Place → Option (BinderEntry ⊕ DeckEntry)
  | .binder user card => (store.binder.get? ⟨user, card⟩).map .inl
  | .zone deck card zone => (store.entries.get? ⟨deck, card, zone⟩).map .inr

/-- The copies in a place. -/
def copiesAt (store : Store) : Place → Int
  | .binder user card => store.held user card
  | .zone deck card zone => store.placed deck card zone

/-- The tables with another number of copies in a place. -/
def setAt (store : Store) (place : Place) (quantity : Int) (time : Instant) : Store :=
  match place with
  | .binder user card => store.hold user card quantity time
  | .zone deck card zone => store.place deck card zone quantity time

/-- Copies have moved from one place to another, perhaps through others whose rows were
written anew; nothing else has changed. -/
structure Relocated (before after : Store) (source target : Place) (quantity : Int)
    (passed : List Place) : Prop where
  users : after.users = before.users
  cards : after.cards = before.cards
  decks : after.decks = before.decks
  copies : ∀ place, after.copiesAt place =
    before.copiesAt place - (if place = source then quantity else 0) +
      (if place = target then quantity else 0)
  rows : ∀ place, place ≠ source → place ≠ target → place ∉ passed →
    after.rowAt place = before.rowAt place

/-- There is a row just where there are copies. -/
def Tidy (store : Store) : Prop :=
  ∀ place, (store.rowAt place).isSome = true ↔ 0 < store.copiesAt place

section Rows

variable (store : Store)

theorem copiesAt_setAt (place : Place) (quantity : Int) (time : Instant) (other : Place) :
    (store.setAt place quantity time).copiesAt other =
      if other = place then quantity else store.copiesAt other := by
  cases place with
  | binder user card =>
      cases other with
      | binder user' card' => simp only [setAt, copiesAt, held_hold, Place.binder.injEq]
      | zone deck card' zone => simp [setAt, copiesAt]
  | zone deck card zone =>
      cases other with
      | binder user card' => simp [setAt, copiesAt]
      | zone deck' card' zone' => simp only [setAt, copiesAt, placed_place, Place.zone.injEq]

theorem rowAt_setAt_of_ne {place other : Place} (different : other ≠ place) (quantity : Int)
    (time : Instant) : (store.setAt place quantity time).rowAt other = store.rowAt other := by
  cases place with
  | binder user card =>
      cases other with
      | binder user' card' =>
          have keys : BinderKey.mk user' card' ≠ ⟨user, card⟩ := by simpa using different
          simp only [setAt, rowAt, hold]
          split
          · rw [Table.get?_erase_of_ne _ keys]
          · rw [Table.get?_insert_of_ne _ keys]
      | zone deck card' zone => rfl
  | zone deck card zone =>
      cases other with
      | binder user card' => rfl
      | zone deck' card' zone' =>
          have keys : EntryKey.mk deck' card' zone' ≠ ⟨deck, card, zone⟩ := by simpa using different
          simp only [setAt, rowAt, Store.place]
          split
          · rw [Table.get?_erase_of_ne _ keys]
          · rw [Table.get?_insert_of_ne _ keys]

end Rows

theorem Valid.tidy {store : Store} (valid : store.Valid) : store.Tidy := by
  intro place
  cases place with
  | binder user card =>
      simp only [rowAt, copiesAt, held, Option.isSome_map]
      cases found : store.binder.get? ⟨user, card⟩ with
      | none => simp
      | some entry =>
          have positive := (valid.binder found).quantity.1
          simpa using Int.lt_of_add_one_le positive
  | zone deck card zone =>
      simp only [rowAt, copiesAt, placed, Option.isSome_map]
      cases found : store.entries.get? ⟨deck, card, zone⟩ with
      | none => simp
      | some entry =>
          have positive := (valid.entries found).quantity.1
          simpa using Int.lt_of_add_one_le positive

/-- Where there is a row just where there are copies, no row means no copies. -/
theorem Tidy.rowAt_eq_none_iff {store : Store} (tidy : store.Tidy) {place : Place} :
    store.rowAt place = none ↔ store.copiesAt place ≤ 0 := by
  rw [← Option.not_isSome_iff_eq_none, tidy place, Int.not_lt]

/-! ## Relocations -/

theorem relocated_setAt (store : Store) {source target : Place} (different : source ≠ target)
    (quantity : Int) (taken given : Instant) :
    Relocated store
      ((store.setAt source (store.copiesAt source - quantity) taken).setAt target
        (store.copiesAt target + quantity) given) source target quantity [] where
  users := by cases source <;> cases target <;> rfl
  cards := by cases source <;> cases target <;> rfl
  decks := by cases source <;> cases target <;> rfl
  copies place := by
    simp only [copiesAt_setAt]
    by_cases atTarget : place = target
    · have elsewhere : place ≠ source := fun atSource => different (atSource.symm.trans atTarget)
      simp [atTarget, Ne.symm different]
    · by_cases atSource : place = source <;> simp [atTarget, atSource, different]
  rows place notSource notTarget _ := by
    rw [rowAt_setAt_of_ne _ notTarget, rowAt_setAt_of_ne _ notSource]

/-- The row copies have been taken from is gone just where it had no others. -/
theorem Relocated.emptied_iff {before after : Store} {source target : Place} {quantity : Int}
    {passed : List Place} (moved : Relocated before after source target quantity passed)
    (different : source ≠ target) (enough : quantity ≤ before.copiesAt source)
    (tidy : after.Tidy) :
    after.rowAt source = none ↔ before.copiesAt source = quantity := by
  rw [tidy.rowAt_eq_none_iff, moved.copies, if_pos rfl, if_neg different]
  omega

/-- Copies that go from one zone to another leave all binders as they were. -/
theorem Relocated.holdings {before after : Store} {deck deck' card card' : Uuid}
    {zone zone' : Zone} {quantity : Int} {passed : List Place}
    (moved : Relocated before after (.zone deck card zone) (.zone deck' card' zone') quantity
      passed) (tidy : before.Tidy) (tidy' : after.Tidy) (user other : Uuid) :
    after.held user other = before.held user other ∧
      (before.binder.get? ⟨user, other⟩ = none → after.binder.get? ⟨user, other⟩ = none) := by
  have same : after.copiesAt (.binder user other) = before.copiesAt (.binder user other) := by
    simpa using moved.copies (.binder user other)
  constructor
  · exact same
  · intro missing
    have none : before.copiesAt (.binder user other) ≤ 0 :=
      tidy.rowAt_eq_none_iff.mp (by simp [rowAt, missing])
    have gone := tidy'.rowAt_eq_none_iff.mpr (same ▸ none)
    simpa [rowAt] using gone

/-- What is moved on from where it has been moved to has passed through there. -/
theorem Relocated.trans {before between after : Store} {source via target : Place}
    {quantity : Int} {passed passed' : List Place}
    (first : Relocated before between source via quantity passed)
    (second : Relocated between after via target quantity passed') :
    Relocated before after source target quantity (via :: (passed ++ passed')) where
  users := second.users.trans first.users
  cards := second.cards.trans first.cards
  decks := second.decks.trans first.decks
  copies place := by
    rw [second.copies, first.copies]
    omega
  rows place notSource notTarget notPassed := by
    simp only [List.mem_cons, List.mem_append, not_or] at notPassed
    obtain ⟨notVia, notFirst, notSecond⟩ := notPassed
    rw [second.rows place notVia notTarget notSecond, first.rows place notSource notVia notFirst]

end Store

end CardInventory.Memory
