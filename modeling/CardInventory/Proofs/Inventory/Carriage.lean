import CardInventory.Proofs.Inventory.Attainable
import CardInventory.Proofs.Ledger.Relocation
import CardInventory.Proofs.Memory.Shift

/-!
# Operations along routes

Every operation that moves copies sends them along a route that is told by its arguments and
by the owners of decks. It succeeds just where what it names is known and the route admits
the copies, and then they have been sent along it and nothing else has changed.
-/

namespace CardInventory

open Memory Storage Ledger Inventory

namespace Memory

/-- A route that leads through no third place. -/
def Route.direct (source target : Option Place) : Route :=
  ⟨source, target, none, nofun⟩

namespace Store

/-- The place of a card in the binder of a deck's owner, if the deck exists. -/
def binderOf? (store : Store) (deck card : Uuid) : Option Place :=
  (store.ownerOf? deck).map fun owner => .binder owner card

/-- The route from a zone of a deck into another deck, through the binder of the owner. -/
def transferRoute (store : Store) (source destination card : Uuid) (zone : Zone) : Route where
  source := some (.zone source card zone)
  target := some (.zone destination card .main)
  via := store.binderOf? source card
  apart place through := by
    obtain ⟨owner, -, rfl⟩ := Option.map_eq_some_iff.mp through
    simp

variable {store after : Store} {deck card : Uuid} {quantity : Int}

theorem binderOf?_of_owned {owner : Uuid} (owned : store.ownerOf? deck = some owner) (card : Uuid) :
    store.binderOf? deck card = some (.binder owner card) := by
  rw [binderOf?, owned, Option.map_some]

theorem heldByOwner_of_owned {owner : Uuid} (owned : store.ownerOf? deck = some owner)
    (card : Uuid) : store.heldByOwner deck card = store.held owner card := by
  rw [heldByOwner, owned, Option.elim_some]

theorem exists_owner (deckExists : store.decks.contains deck = true) :
    ∃ owner, store.ownerOf? deck = some owner := by
  obtain ⟨row, found⟩ := Table.contains_iff.mp deckExists
  exact ⟨row.owner, by rw [ownerOf?, found, Option.map_some]⟩

/-- What has moved between two places and has been counted has been sent along their route. -/
theorem Relocated.shifted {source target : Place} {passed : List Place}
    {gained : Uuid → Uuid → Int} {grown : Uuid → Int}
    (relocated : Relocated store after source target quantity passed)
    (moved : Moved store after gained grown) {route : Route}
    (source_eq : route.source = some source) (target_eq : route.target = some target)
    (counted : ∀ deck, grown deck = route.growth quantity deck) :
    Shifted store after route quantity where
  valid := moved.valid
  users := moved.users
  cards := moved.cards
  decks := moved.decks
  copies place := by
    rw [relocated.copies, Route.change, source_eq, target_eq]
    simp only [Option.some.injEq, eq_comm]
    omega
  growth deck := by rw [moved.copies, counted]

theorem Shifted.binderOf?_eq {route : Route} (shifted : Shifted store after route quantity)
    (deck card : Uuid) : after.binderOf? deck card = store.binderOf? deck card := by
  rw [binderOf?, binderOf?, shifted.ownerOf?_eq]

/-- A card of which there are copies in a zone exists. -/
theorem Valid.card_of_placed_pos (valid : store.Valid) {zone : Zone}
    (placing : 0 < store.placed deck card zone) : store.cards.contains card = true := by
  obtain ⟨entry, found⟩ := Table.contains_iff.mp (contains_of_placed placing)
  exact (valid.entries found).card

/-- Another number of copies in a binder has been sent there, or away. -/
theorem Moved.shifted_hold {user : Uuid} {amount : Int} {time : Instant}
    {gained : Uuid → Uuid → Int}
    (moved : Moved store (store.hold user card amount time) gained fun _ => 0) {route : Route}
    (changed : ∀ place, route.change quantity place =
      if place = .binder user card then amount - store.held user card else 0)
    (even : ∀ deck, route.growth quantity deck = 0) :
    Shifted store (store.hold user card amount time) route quantity where
  valid := moved.valid
  users := moved.users
  cards := moved.cards
  decks := moved.decks
  copies place := by
    have copies := store.copiesAt_setAt (.binder user card) amount time place
    rw [setAt] at copies
    rw [copies, changed]
    split
    · rename_i there
      rw [there, copiesAt]
      omega
    · exact (Int.add_zero _).symm
  growth deck := by rw [moved.copies, even]

/-! ## What routes ask for -/

theorem creditRefusal_eq_none_iff_admits (valid : store.Valid) (user card : Uuid) :
    store.creditRefusal user card quantity = none ↔
      (store.users.contains user = true ∧ store.cards.contains card = true) ∧
        (Route.direct none (some (.binder user card))).Admits store quantity := by
  rw [creditRefusal_eq_none_iff, Route.admits_iff valid (by simp [Route.direct])]
  simp only [Route.direct, Place.deck?, copiesAt, Option.some.injEq, forall_eq', reduceCtorEq,
    Option.bind_some, false_implies, implies_true, and_true, true_and]
  tauto

theorem debitRefusal_eq_none_iff_admits (valid : store.Valid) (user card : Uuid) :
    store.debitRefusal user card quantity = none ↔
      True ∧ (Route.direct (some (.binder user card)) none).Admits store quantity := by
  rw [debitRefusal_eq_none_iff, Route.admits_iff valid (by simp [Route.direct])]
  simp only [Route.direct, Place.deck?, copiesAt, Option.some.injEq, forall_eq', reduceCtorEq,
    Option.bind_none, Option.bind_some, false_implies, implies_true, and_true, true_and]

theorem allocationRefusal_eq_none_iff_admits (valid : store.Valid) (deck card : Uuid)
    (zone : Zone) :
    store.allocationRefusal deck card quantity zone = none ↔
      (store.decks.contains deck = true ∧ store.cards.contains card = true) ∧
        (Route.direct (store.binderOf? deck card) (some (.zone deck card zone))).Admits store
          quantity := by
  rw [← firstCause_allocationCauses, firstCause_eq_none_iff, canAllocate_iff]
  by_cases deckExists : store.decks.contains deck = true
  · obtain ⟨owner, owned⟩ := exists_owner deckExists
    rw [CanAllocate, heldByOwner_of_owned owned, binderOf?_of_owned owned,
      Route.admits_iff valid (by simp [Route.direct])]
    simp only [Route.direct, Place.deck?, copiesAt, deckExists, Option.some.injEq, forall_eq',
      reduceCtorEq, Option.bind_some, false_implies, implies_true, and_true, true_and, ne_eq,
      not_false_eq_true, forall_const]
    tauto
  · simp [CanAllocate, deckExists]

theorem deallocationRefusal_eq_none_iff_admits (valid : store.Valid) (deck card : Uuid)
    (zone : Option Zone) :
    store.deallocationRefusal deck card quantity zone = none ↔
      store.decks.contains deck = true ∧
        (Route.direct (some (.zone deck card (store.sourceZone deck card zone)))
          (store.binderOf? deck card)).Admits store quantity := by
  rw [← firstCause_deallocationCauses valid, firstCause_eq_none_iff, canDeallocate_iff]
  by_cases deckExists : store.decks.contains deck = true
  · obtain ⟨owner, owned⟩ := exists_owner deckExists
    rw [CanDeallocate, heldByOwner_of_owned owned, binderOf?_of_owned owned,
      Route.admits_iff valid (by simp [Route.direct])]
    simp only [Route.direct, Place.deck?, copiesAt, deckExists, Option.some.injEq, forall_eq',
      reduceCtorEq, Option.bind_some, false_implies, implies_true, and_true, true_and]
    constructor
    · rintro ⟨positive, -, enough, small⟩
      exact ⟨positive, enough, small⟩
    · rintro ⟨positive, enough, small⟩
      exact ⟨positive, contains_of_placed (Int.lt_of_lt_of_le positive enough), enough, small⟩
  · simp [CanDeallocate, deckExists]

theorem zoneMoveRefusal_eq_none_iff_admits (valid : store.Valid) (deck card : Uuid)
    (source target : Zone) :
    store.zoneMoveRefusal deck card quantity source target = none ↔
      (source ≠ target ∧ store.decks.contains deck = true) ∧
        (Route.direct (some (.zone deck card source)) (some (.zone deck card target))).Admits store
          quantity := by
  rw [← firstCause_zoneMoveCauses valid, firstCause_eq_none_iff, canMoveZone_iff]
  by_cases different : source = target
  · simp [CanMoveZone, different]
  · rw [CanMoveZone, Route.admits_iff valid (by simpa [Route.direct] using different)]
    simp only [Route.direct, Place.deck?, copiesAt, Option.some.injEq, forall_eq', reduceCtorEq,
      Option.bind_some, ne_eq, not_true_eq_false, false_implies, implies_true, and_true,
      different, not_false_eq_true, true_and]
    tauto

theorem transferRefusal_eq_none_iff_admits (valid : store.Valid) (source destination card : Uuid)
    (zone : Option Zone) :
    store.transferRefusal source destination card quantity zone = none ↔
      (source ≠ destination ∧ store.decks.contains source = true ∧
          store.decks.contains destination = true ∧
          store.ownerOf? source = store.ownerOf? destination) ∧
        (store.transferRoute source destination card
          (store.sourceZone source card zone)).Admits store quantity := by
  rw [← firstCause_transferCauses valid, firstCause_eq_none_iff]
  simp only [transferCauses, List.forall_mem_append, List.forall_mem_cons, List.not_mem_nil,
    false_implies, implies_true, and_true, removalCauses_eq_none_iff, causeIf_eq_none_iff,
    capacityCause_eq_none_iff, holdingCause, entryCause, Int.not_le, Int.not_lt,
    Bool.not_eq_false, ne_eq, not_not]
  by_cases different : source = destination
  · simp [different]
  by_cases sourceExists : store.decks.contains source = true
  · obtain ⟨owner, owned⟩ := exists_owner sourceExists
    rw [heldByOwner_of_owned owned,
      Route.admits_iff valid (by simp [transferRoute, different])]
    simp only [transferRoute, binderOf?_of_owned owned, Place.deck?, copiesAt, Option.some.injEq,
      forall_eq', Option.bind_some, ne_eq, different, sourceExists, true_and, not_false_eq_true,
      forall_const]
    constructor
    · rintro ⟨⟨⟨positive, deckExists, owners, limits⟩, -, enough⟩, room, small⟩
      exact ⟨⟨deckExists, owners⟩, positive, enough, small, limits, room⟩
    · rintro ⟨⟨deckExists, owners⟩, positive, enough, small, limits, room⟩
      have listed := contains_of_placed (Int.lt_of_lt_of_le positive enough)
      exact ⟨⟨⟨positive, deckExists, owners, limits⟩, listed, enough⟩, room, small⟩
  · simp [sourceExists]

end Store

end Memory

namespace Inventory

/-- An operation succeeds just where what it names is known and its route admits the copies, and
then they have been sent along it. -/
structure Carried {α : Type} (before : Store) (outcome : Except Failure α × Depot) (known : Prop)
    (route : Route) (quantity : Int) : Prop where
  succeeds : outcome.1.isOk = true ↔ known ∧ route.Admits before quantity
  shifted : outcome.1.isOk = true → before.Shifted outcome.2.store route quantity

variable {moments : Nat → Moment} {defaultCapacity : Int} {depot : Depot}

theorem carried_of_ends (free : depot.refusal = none) (operation : Operation)
    (mutates : operation.mutates = true) {known : Prop} {route : Route} {quantity : Int}
    {refusal : Option Failure}
    (accepted : refusal = none ↔ known ∧ route.Admits depot.store quantity)
    (ends : ∀ drawn, (operation.task defaultCapacity).Ends (answerNext moments) .storage
      ⟨depot.store, drawn⟩
      (fun _ after => refusal = none ∧ depot.store.Shifted after.store route quantity)
      (fun failure _ => refusal = some failure)) :
    Carried depot.store (depot.perform moments defaultCapacity operation) known route quantity := by
  rw [Depot.perform_eq_run free]
  rcases ran : (operation.task defaultCapacity).run (answerNext moments) .storage
    ⟨depot.store, depot.drawn⟩ with ⟨failure | value, staged⟩
  · rw [ran]
    have refused := (ends depot.drawn).error ran
    have unaccepted := mt accepted.mpr (by simp [refused])
    exact ⟨iff_of_false nofun unaccepted, nofun⟩
  · rw [ran, mutates]
    obtain ⟨accepts, shifted⟩ := (ends depot.drawn).ok ran
    exact ⟨iff_of_true rfl (accepted.mp accepts), fun _ => shifted⟩

section Operations

variable (valid : depot.store.Valid) (free : depot.refusal = none)
include valid free

theorem credit_carried (user card : Uuid) (quantity : Int) :
    Carried depot.store
      (depot.perform moments defaultCapacity (.creditBinder user card quantity))
      (depot.store.users.contains user = true ∧ depot.store.cards.contains card = true)
      (.direct none (some (.binder user card))) quantity := by
  apply carried_of_ends free _ rfl (Store.creditRefusal_eq_none_iff_admits valid user card)
  intro drawn
  refine (credit_ends valid user card quantity).mono ?_ fun _ _ failed => failed.1
  rintro _ after ⟨accepted, time, -, same⟩
  rw [same]
  have moved := valid.moved_credited accepted time
  refine ⟨accepted, moved.shifted_hold (fun place => ?_) fun _ => rfl⟩
  simp only [Route.change, Route.direct, reduceCtorEq, if_false, Option.some.injEq,
    @eq_comm _ (Place.binder user card)]
  split_ifs <;> omega

theorem debit_carried (user card : Uuid) (quantity : Int) :
    Carried depot.store
      (depot.perform moments defaultCapacity (.debitBinder user card quantity)) True
      (.direct (some (.binder user card)) none) quantity := by
  apply carried_of_ends free _ rfl (Store.debitRefusal_eq_none_iff_admits valid user card)
  intro drawn
  refine (debit_ends valid user card quantity).mono ?_ fun _ _ failed => failed.1
  rintro _ after ⟨accepted, time, same⟩
  rw [same]
  have moved := valid.moved_debited accepted time
  refine ⟨accepted, moved.shifted_hold (fun place => ?_) fun _ => rfl⟩
  simp only [Route.change, Route.direct, reduceCtorEq, if_false, Option.some.injEq,
    @eq_comm _ (Place.binder user card)]
  split_ifs <;> omega

theorem allocate_carried (deck card : Uuid) (quantity : Int) (zone : Zone) :
    Carried depot.store
      (depot.perform moments defaultCapacity (.allocate deck card quantity zone))
      (depot.store.decks.contains deck = true ∧ depot.store.cards.contains card = true)
      (.direct (depot.store.binderOf? deck card) (some (.zone deck card zone))) quantity := by
  apply carried_of_ends free _ rfl
    (Store.allocationRefusal_eq_none_iff_admits valid deck card zone)
  intro drawn
  refine ((allocate_ends valid deck card quantity zone).and
    (allocate_relocates valid deck card quantity zone drawn)).mono ?_ fun _ _ failed => failed.1.1
  rintro _ after ⟨⟨accepted, moved, -⟩, owner, owned, relocated⟩
  have binder := Store.binderOf?_of_owned owned card
  refine ⟨accepted, relocated.shifted moved binder rfl fun deck' => ?_⟩
  simp [Route.growth, Route.direct, binder, Place.deck?, eq_comm]

theorem deallocate_carried (deck card : Uuid) (quantity : Int) (zone : Option Zone) :
    Carried depot.store
      (depot.perform moments defaultCapacity (.deallocate deck card quantity zone))
      (depot.store.decks.contains deck = true)
      (.direct (some (.zone deck card (depot.store.sourceZone deck card zone)))
        (depot.store.binderOf? deck card)) quantity := by
  apply carried_of_ends free _ rfl
    (Store.deallocationRefusal_eq_none_iff_admits valid deck card zone)
  intro drawn
  refine ((deallocate_ends valid deck card quantity zone).and
    (deallocate_relocates valid deck card quantity zone drawn)).mono ?_ fun _ _ failed => failed.1.1
  rintro _ after ⟨⟨accepted, _, _, _, _, -, -, -, moved⟩, -, owner, owned, relocated⟩
  have binder := Store.binderOf?_of_owned owned card
  refine ⟨accepted, relocated.shifted moved rfl binder fun deck' => ?_⟩
  simp only [Route.growth, Route.direct, binder, Place.deck?, Option.bind_some, reduceCtorEq,
    if_false, Option.some.injEq, @eq_comm _ deck]
  split_ifs <;> omega

theorem moveZone_carried (deck card : Uuid) (quantity : Int) (source target : Zone) :
    Carried depot.store
      (depot.perform moments defaultCapacity (.moveZone deck card quantity source target))
      (source ≠ target ∧ depot.store.decks.contains deck = true)
      (.direct (some (.zone deck card source)) (some (.zone deck card target))) quantity := by
  apply carried_of_ends free _ rfl
    (Store.zoneMoveRefusal_eq_none_iff_admits valid deck card source target)
  intro drawn
  refine ((moveZone_ends valid deck card quantity source target).and
    (moveZone_relocates valid deck card quantity source target drawn)).mono ?_
      fun _ _ failed => failed.1.1
  rintro _ after ⟨⟨accepted, moved⟩, relocated⟩
  refine ⟨accepted, relocated.shifted moved rfl rfl fun deck' => ?_⟩
  simp [Route.growth, Route.direct, Place.deck?]

theorem transfer_carried (source destination card : Uuid) (quantity : Int) (zone : Option Zone) :
    Carried depot.store
      (depot.perform moments defaultCapacity (.transfer source destination card quantity zone))
      (source ≠ destination ∧ depot.store.decks.contains source = true ∧
        depot.store.decks.contains destination = true ∧
        depot.store.ownerOf? source = depot.store.ownerOf? destination)
      (depot.store.transferRoute source destination card
        (depot.store.sourceZone source card zone)) quantity := by
  apply carried_of_ends free _ rfl
    (Store.transferRefusal_eq_none_iff_admits valid source destination card zone)
  intro drawn
  refine ((transfer_ends valid source destination card quantity zone).and
    (transfer_relocates valid source destination card quantity zone drawn)).mono ?_
      fun _ _ failed => failed.1.1
  rintro _ after ⟨⟨accepted, moved⟩, _, -, relocated⟩
  refine ⟨accepted, relocated.shifted moved rfl rfl fun deck' => ?_⟩
  simp only [Route.growth, Store.transferRoute, Place.deck?, Option.bind_some, Option.some.injEq,
    eq_comm]
  split_ifs <;> omega

end Operations

end Inventory

end CardInventory
