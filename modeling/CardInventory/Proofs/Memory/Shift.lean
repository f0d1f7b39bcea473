import CardInventory.Proofs.Ledger.Cause
import CardInventory.Proofs.Memory.Agreement
import CardInventory.Proofs.Memory.Place
import Mathlib.Tactic.SplitIfs

/-!
# Copies on a route

A movement sends copies along a route: from a place, or from outside of the inventory, to a
place, or out of it. By how much the copies in each place and in each deck change is told by
the route and by how many are sent. The changes add up where copies take one route twice, and
cancel out where they go back. Since rows are told by the copies in their places up to times,
so are the tables.
-/

namespace CardInventory.Memory

/-- The deck a place is in, if it is in one. -/
def Place.deck? : Place → Option Uuid
  | .binder _ _ => none
  | .zone deck _ _ => some deck

/-- A way for copies from one place to another, of which one may be outside of the inventory.
They may pass through a third place, where none of them stays. -/
@[ext]
structure Route where
  source : Option Place
  target : Option Place
  via : Option Place
  apart : ∀ place, via = some place → source ≠ some place ∧ target ≠ some place

namespace Route

variable (route : Route)

/-- The way back. -/
def reverse : Route :=
  ⟨route.target, route.source, route.via, fun place through => (route.apart place through).symm⟩

/-- By how much the copies in a place change when some are sent along a route. -/
def change (quantity : Int) (place : Place) : Int :=
  (if route.target = some place then quantity else 0) -
    if route.source = some place then quantity else 0

/-- By how much a deck grows when copies are sent along a route. -/
def growth (quantity : Int) (deck : Uuid) : Int :=
  (if route.target.bind Place.deck? = some deck then quantity else 0) -
    if route.source.bind Place.deck? = some deck then quantity else 0

theorem change_add (first second : Int) (place : Place) :
    route.change (first + second) place = route.change first place + route.change second place := by
  unfold change
  split_ifs <;> omega

theorem growth_add (first second : Int) (deck : Uuid) :
    route.growth (first + second) deck = route.growth first deck + route.growth second deck := by
  unfold growth
  split_ifs <;> omega

theorem change_reverse (quantity : Int) (place : Place) :
    route.reverse.change quantity place = -route.change quantity place :=
  (Int.neg_sub _ _).symm

theorem growth_reverse (quantity : Int) (deck : Uuid) :
    route.reverse.growth quantity deck = -route.growth quantity deck :=
  (Int.neg_sub _ _).symm

variable {route}

/-- Of more copies no fewer change their place, in the same direction. -/
theorem change_between {less more : Int} (nonneg : 0 ≤ less) (le : less ≤ more) (place : Place) :
    0 ≤ route.change less place ∧ route.change less place ≤ route.change more place ∨
      route.change more place ≤ route.change less place ∧ route.change less place ≤ 0 := by
  unfold change
  split_ifs <;> omega

/-- Whether a deck grows is told by the route alone. -/
theorem growth_pos_iff {quantity : Int} (positive : 0 < quantity) {deck : Uuid} :
    0 < route.growth quantity deck ↔
      route.target.bind Place.deck? = some deck ∧ route.source.bind Place.deck? ≠ some deck := by
  unfold growth
  split_ifs <;> simp [*, Int.le_of_lt]

theorem growth_of_pos {quantity : Int} (positive : 0 < quantity) {deck : Uuid}
    (grows : 0 < route.growth quantity deck) : route.growth quantity deck = quantity := by
  unfold growth at *
  split_ifs at * <;> omega

/-- None of the copies stays where they pass through. -/
theorem change_of_via {place : Place} (through : route.via = some place) (quantity : Int) :
    route.change quantity place = 0 := by
  obtain ⟨notSource, notTarget⟩ := route.apart place through
  simp [change, notSource, notTarget]

/-- Copies may take a route where each place then has a number of copies that a row can have, the
deck that grows is within its limit, and the place they pass through can have them for the time
being. -/
structure Admits (store : Store) (route : Route) (quantity : Int) : Prop where
  positive : 0 < quantity
  places : ∀ place, 0 ≤ store.copiesAt place + route.change quantity place ∧
    store.copiesAt place + route.change quantity place ≤ Width.greatest 32
  limits : ∀ deck limit, 0 < route.growth quantity deck → store.limitOf? deck = some limit →
    store.copiesIn deck + route.growth quantity deck ≤ limit
  passage : ∀ place, route.via = some place →
    store.copiesAt place + quantity ≤ Width.greatest 32

end Route

namespace Store

/-- Copies have been sent along a route, and nothing else has changed. -/
structure Shifted (before after : Store) (route : Route) (quantity : Int) : Prop where
  valid : after.Valid
  users : after.users = before.users
  cards : after.cards = before.cards
  decks : after.decks = before.decks
  copies : ∀ place, after.copiesAt place = before.copiesAt place + route.change quantity place
  growth : ∀ deck, after.copiesIn deck = before.copiesIn deck + route.growth quantity deck

variable {store before between after : Store} {route : Route} {quantity : Int}

/-! ## Rows told by copies -/

theorem Valid.copiesAt_bounds (valid : store.Valid) (place : Place) :
    0 ≤ store.copiesAt place ∧ store.copiesAt place ≤ Width.greatest 32 := by
  cases place with
  | binder user card => exact ⟨valid.held_nonneg user card, valid.held_le user card⟩
  | zone deck card zone =>
      exact ⟨valid.placed_nonneg deck card zone, valid.placed_le deck card zone⟩

theorem Valid.binder_row (valid : store.Valid) (key : BinderKey) :
    (store.binder.get? key).map BinderEntry.untimed =
      if store.held key.user key.card = 0 then none
      else some ⟨key.user, key.card, store.held key.user key.card, default⟩ := by
  cases found : store.binder.get? key with
  | none => simp [held, found]
  | some entry =>
      have sound := valid.binder found
      have notNone : entry.quantity ≠ 0 := by have := sound.quantity.1; omega
      obtain rfl := sound.keyed
      simp [held, found, notNone, BinderEntry.untimed]

theorem Valid.entries_row (valid : store.Valid) (key : EntryKey) :
    (store.entries.get? key).map DeckEntry.untimed =
      if store.placed key.deck key.card key.zone = 0 then none
      else some
        ⟨key.deck, key.card, key.zone, store.placed key.deck key.card key.zone, default⟩ := by
  cases found : store.entries.get? key with
  | none => simp [placed, found]
  | some entry =>
      have sound := valid.entries found
      have notNone : entry.quantity ≠ 0 := by have := sound.quantity.1; omega
      obtain rfl := sound.keyed
      simp [placed, found, notNone, DeckEntry.untimed]

/-- Valid tables with the same copies in each place have the same rows. -/
theorem Valid.untimed_eq {left right : Store} (valid : left.Valid) (valid' : right.Valid)
    (users : left.users = right.users) (cards : left.cards = right.cards)
    (decks : left.decks = right.decks)
    (copies : ∀ place, left.copiesAt place = right.copiesAt place) :
    left.untimed = right.untimed := by
  apply Agree.untimed_eq
  refine ⟨users, cards, fun key _ => ?_, fun id _ => by rw [decks], fun key _ => ?_⟩
  · have held : left.held key.user key.card = right.held key.user key.card :=
      copies (.binder key.user key.card)
    rw [valid.binder_row, valid'.binder_row, held]
  · have placed : left.placed key.deck key.card key.zone =
        right.placed key.deck key.card key.zone := copies (.zone key.deck key.card key.zone)
    rw [valid.entries_row, valid'.entries_row, placed]

/-! ## One route after another -/

namespace Shifted

theorem ownerOf?_eq (shifted : Shifted before after route quantity) (deck : Uuid) :
    after.ownerOf? deck = before.ownerOf? deck := by
  rw [ownerOf?, ownerOf?, shifted.decks]

theorem limitOf?_eq (shifted : Shifted before after route quantity) (deck : Uuid) :
    after.limitOf? deck = before.limitOf? deck := by
  rw [limitOf?, limitOf?, shifted.decks]

/-- What is sent along one route twice is sent along it together. -/
theorem add {quantity' : Int} (first : Shifted before between route quantity)
    (second : Shifted between after route quantity') :
    Shifted before after route (quantity + quantity') where
  valid := second.valid
  users := second.users.trans first.users
  cards := second.cards.trans first.cards
  decks := second.decks.trans first.decks
  copies place := by rw [second.copies, first.copies, route.change_add, Int.add_assoc]
  growth deck := by rw [second.growth, first.growth, route.growth_add, Int.add_assoc]

/-- The tables are told by the route and by how many copies have been sent. -/
theorem untimed_eq {after' : Store} (shifted : Shifted before after route quantity)
    (shifted' : Shifted before after' route quantity) : after.untimed = after'.untimed := by
  refine shifted.valid.untimed_eq shifted'.valid (shifted.users.trans shifted'.users.symm)
    (shifted.cards.trans shifted'.cards.symm) (shifted.decks.trans shifted'.decks.symm)
    fun place => ?_
  rw [shifted.copies, shifted'.copies]

/-- What has been sent back is where it was. -/
theorem untimed_eq_of_reverse (valid : before.Valid)
    (shifted : Shifted before between route quantity)
    (back : Shifted between after route.reverse quantity) : after.untimed = before.untimed := by
  refine back.valid.untimed_eq valid (back.users.trans shifted.users)
    (back.cards.trans shifted.cards) (back.decks.trans shifted.decks) fun place => ?_
  rw [back.copies, shifted.copies, route.change_reverse]
  omega

/-- After copies that have come from within the limits of all decks the way back is open. -/
theorem admits_reverse (valid : before.Valid) (limits : before.WithinLimits)
    (admits : route.Admits before quantity) (shifted : Shifted before between route quantity) :
    route.reverse.Admits between quantity where
  positive := admits.positive
  places place := by
    have bounds := valid.copiesAt_bounds place
    rw [shifted.copies, route.change_reverse]
    omega
  limits deck limit _ limited := by
    rw [shifted.limitOf?_eq, limitOf?, Option.bind_eq_some_iff] at limited
    obtain ⟨row, found, capacity⟩ := limited
    have within := limits found capacity
    rw [shifted.growth, route.growth_reverse]
    omega
  passage place through := by
    have through : route.via = some place := through
    rw [shifted.copies, route.change_of_via through, Int.add_zero]
    exact admits.passage place through

end Shifted

end Store

namespace Route

variable {store before between : Store} {route : Route}

/-- Where copies may take a route, they are in its source. -/
theorem Admits.enough {quantity : Int} (admits : route.Admits store quantity) {place : Place}
    (atSource : route.source = some place) (notTarget : route.target ≠ some place) :
    quantity ≤ store.copiesAt place := by
  have within := admits.places place
  simp only [change, atSource, notTarget, if_true, if_false] at within
  omega

/-- Where copies may take a route, so may fewer of them. -/
theorem Admits.of_le {less more : Int} (admits : route.Admits store more) (valid : store.Valid)
    (positive : 0 < less) (le : less ≤ more) : route.Admits store less where
  positive := positive
  places place := by
    have bounds := valid.copiesAt_bounds place
    have within := admits.places place
    have direction := route.change_between (Int.le_of_lt positive) le place
    omega
  limits deck limit grows limited := by
    have grows' := (growth_pos_iff admits.positive).mpr ((growth_pos_iff positive).mp grows)
    have within := admits.limits deck limit grows' limited
    rw [growth_of_pos admits.positive grows'] at within
    rw [growth_of_pos positive grows]
    omega
  passage place through := by
    have room := admits.passage place through
    omega

/-- Once copies have been sent along a route on which they stay nowhere else, more may follow them
just where all may be sent together. -/
theorem admits_after_iff {first second : Int} (direct : route.via = none)
    (positive : 0 < first) (positive' : 0 < second)
    (shifted : Store.Shifted before between route first) :
    route.Admits between second ↔ route.Admits before (first + second) := by
  have together : 0 < first + second := Int.add_pos positive positive'
  have grows {deck : Uuid} :
      0 < route.growth second deck ↔ 0 < route.growth (first + second) deck :=
    (growth_pos_iff positive').trans (growth_pos_iff together).symm
  constructor
  · intro admits
    refine ⟨together, fun place => ?_, fun deck limit growing limited => ?_, by simp [direct]⟩
    · have within := admits.places place
      rwa [shifted.copies, Int.add_assoc, ← route.change_add] at within
    · have within := admits.limits deck limit (grows.mpr growing)
        ((shifted.limitOf?_eq deck).trans limited)
      rwa [shifted.growth, Int.add_assoc, ← route.growth_add] at within
  · intro admits
    refine ⟨positive', fun place => ?_, fun deck limit growing limited => ?_, by simp [direct]⟩
    · rw [shifted.copies, Int.add_assoc, ← route.change_add]
      exact admits.places place
    · rw [shifted.growth, Int.add_assoc, ← route.growth_add]
      rw [shifted.limitOf?_eq] at limited
      exact admits.limits deck limit (grows.mp growing) limited

/-- What is asked of the places a route begins and ends in, of the deck it ends in, and of the
place it leads through. -/
theorem admits_iff (valid : store.Valid) (distinct : route.source ≠ route.target)
    {quantity : Int} :
    route.Admits store quantity ↔
      0 < quantity ∧
        (∀ place, route.source = some place → quantity ≤ store.copiesAt place) ∧
        (∀ place, route.target = some place →
          store.copiesAt place + quantity ≤ Width.greatest 32) ∧
        (∀ deck, route.target.bind Place.deck? = some deck →
          route.source.bind Place.deck? ≠ some deck → ∀ limit, store.limitOf? deck = some limit →
            store.copiesIn deck + quantity ≤ limit) ∧
        ∀ place, route.via = some place → store.copiesAt place + quantity ≤ Width.greatest 32 := by
  constructor
  · intro admits
    refine ⟨admits.positive, fun place atSource => ?_, fun place atTarget => ?_,
      fun deck filled elsewhere limit limited => ?_, admits.passage⟩
    · exact admits.enough atSource fun atTarget => distinct (atSource.trans atTarget.symm)
    · have within := admits.places place
      have other : route.source ≠ some place := fun atSource =>
        distinct (atSource.trans atTarget.symm)
      simp only [change, atTarget, other, if_true, if_false] at within
      omega
    · have grows := (growth_pos_iff admits.positive).mpr ⟨filled, elsewhere⟩
      have within := admits.limits deck limit grows limited
      rwa [growth_of_pos admits.positive grows] at within
  · rintro ⟨positive, enough, small, limits, passage⟩
    refine ⟨positive, fun place => ?_, fun deck limit grows limited => ?_, passage⟩
    · have bounds := valid.copiesAt_bounds place
      have taken := enough place
      have given := small place
      unfold change
      split_ifs with atTarget atSource atSource
      · omega
      · have := given atTarget
        omega
      · have := taken atSource
        omega
      · omega
    · obtain ⟨filled, elsewhere⟩ := (growth_pos_iff positive).mp grows
      rw [growth_of_pos positive grows]
      exact limits deck filled elsewhere limit limited

end Route

end CardInventory.Memory
