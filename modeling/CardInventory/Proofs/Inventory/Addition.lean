import CardInventory.Proofs.Inventory.Carriage

/-!
# Movements that add up

Copies that are moved in two parts are moved as if all at once. The second part finds what the
first has left, a row that is gone or one that has grown, and what is then asked of it is what
would be asked of both parts together: that the source has as many copies, that the row of the
target can have them, and that the deck that grows is within its limit. A transfer is not among
these movements, since the binder its copies pass through must have room for them all at once.
-/

namespace CardInventory

open Memory Storage Ledger Inventory

namespace Inventory

/-- A movement of copies, whatever their number. -/
inductive Movement where
  | credit (user card : Uuid)
  | debit (user card : Uuid)
  | allocate (deck card : Uuid) (zone : Zone)
  | deallocate (deck card : Uuid) (zone : Zone)
  | moveZone (deck card : Uuid) (source target : Zone)

namespace Movement

/-- The operation that moves a number of copies. -/
def operation (quantity : Int) : Movement → Operation
  | credit user card => .creditBinder user card quantity
  | debit user card => .debitBinder user card quantity
  | allocate deck card zone => .allocate deck card quantity zone
  | deallocate deck card zone => .deallocate deck card quantity (some zone)
  | moveZone deck card source target => .moveZone deck card quantity source target

/-- The route the copies take. -/
def route (store : Store) : Movement → Route
  | credit user card => .direct none (some (.binder user card))
  | debit user card => .direct (some (.binder user card)) none
  | allocate deck card zone => .direct (store.binderOf? deck card) (some (.zone deck card zone))
  | deallocate deck card zone => .direct (some (.zone deck card zone)) (store.binderOf? deck card)
  | moveZone deck card source target =>
      .direct (some (.zone deck card source)) (some (.zone deck card target))

/-- What a movement names exists, and the zones of a move between zones are not one. -/
def Known (store : Store) : Movement → Prop
  | credit user card => store.users.contains user = true ∧ store.cards.contains card = true
  | debit _ _ => True
  | allocate deck card _ => store.decks.contains deck = true ∧ store.cards.contains card = true
  | deallocate deck _ _ => store.decks.contains deck = true
  | moveZone deck _ source target => source ≠ target ∧ store.decks.contains deck = true

theorem via_route (store : Store) (movement : Movement) : (movement.route store).via = none := by
  cases movement <;> rfl

variable {moments : Nat → Moment} {defaultCapacity : Int} {depot : Depot}

theorem carried (valid : depot.store.Valid) (free : depot.refusal = none) (movement : Movement)
    (quantity : Int) :
    Carried depot.store (depot.perform moments defaultCapacity (movement.operation quantity))
      (movement.Known depot.store) (movement.route depot.store) quantity := by
  cases movement with
  | credit user card => exact credit_carried valid free user card quantity
  | debit user card => exact debit_carried valid free user card quantity
  | allocate deck card zone => exact allocate_carried valid free deck card quantity zone
  | deallocate deck card zone => exact deallocate_carried valid free deck card quantity (some zone)
  | moveZone deck card source target =>
      exact moveZone_carried valid free deck card quantity source target

section Shifted

variable {before after : Store} {route : Route} {quantity : Int}

/-- Copies that have been sent anywhere leave each movement its route. -/
theorem route_eq (shifted : before.Shifted after route quantity) (movement : Movement) :
    movement.route after = movement.route before := by
  cases movement <;> simp only [Movement.route, shifted.binderOf?_eq]

theorem known_eq (shifted : before.Shifted after route quantity) (movement : Movement) :
    movement.Known after = movement.Known before := by
  cases movement <;> simp only [Known, shifted.users, shifted.cards, shifted.decks]

end Shifted

end Movement

variable {moments : Nat → Moment} {defaultCapacity : Int} {depot : Depot}

/-- Copies can be moved in two parts just where they can be moved together, and up to times the
tables are then the same: each row has all of the copies, or is gone. -/
theorem movements_add_up (attainable : Attainable moments defaultCapacity depot)
    (movement : Movement) {first second : Int} (positive : 1 ≤ first) (positive' : 1 ≤ second) :
    let half := depot.perform moments defaultCapacity (movement.operation first)
    let whole := half.2.perform moments defaultCapacity (movement.operation second)
    let once := depot.perform moments defaultCapacity (movement.operation (first + second))
    (half.1.isOk = true ∧ whole.1.isOk = true ↔ once.1.isOk = true) ∧
      (once.1.isOk = true → whole.2.store.untimed = once.2.store.untimed) := by
  intro half whole once
  have between : Attainable moments defaultCapacity half.2 := attainable.perform _
  have begun : Carried depot.store half _ _ first :=
    movement.carried attainable.valid attainable.refusal first
  have ended : Carried half.2.store whole _ _ second :=
    movement.carried between.valid between.refusal second
  have together : Carried depot.store once _ _ (first + second) :=
    movement.carried attainable.valid attainable.refusal (first + second)
  have follows (succeeded : half.1.isOk = true) : whole.1.isOk = true ↔ once.1.isOk = true := by
    have shifted := begun.shifted succeeded
    rw [ended.succeeds, together.succeeds, movement.route_eq shifted, movement.known_eq shifted,
      Route.admits_after_iff (movement.via_route _) positive positive' shifted]
  have begins (succeeded : once.1.isOk = true) : half.1.isOk = true := by
    obtain ⟨known, admits⟩ := together.succeeds.mp succeeded
    have fewer : first ≤ first + second := by omega
    exact begun.succeeds.mpr ⟨known, admits.of_le attainable.valid positive fewer⟩
  constructor
  · constructor
    · rintro ⟨succeeded, succeeded'⟩
      exact (follows succeeded).mp succeeded'
    · intro succeeded
      have started := begins succeeded
      exact ⟨started, (follows started).mpr succeeded⟩
  · intro succeeded
    have started := begins succeeded
    have shifted := begun.shifted started
    have shifted' := ended.shifted ((follows started).mpr succeeded)
    rw [movement.route_eq shifted] at shifted'
    exact (shifted.add shifted').untimed_eq (together.shifted succeeded)

/-- All five copies of a binder go to a deck that may hold five, two of them first. -/
theorem five_copies_in_two_parts :
    let moments : Nat → Moment := fun n => ⟨⟨n, 0⟩, .ofNat n⟩
    let forest : CardDraft := ⟨.ofNat 7, "Forest", none, none, none, none, [default]⟩
    let made := fun (operation : Operation) (depot : Depot) =>
      (depot.perform moments 60 operation).2
    let depot := made (.creditBinder (.ofNat 0) forest.id 5) <|
      made (.createDeck ⟨.ofNat 0, "Elves", "modern", some 5, false, none⟩) <|
      made (.registerCard forest) <| made (.createUser ⟨"ada", none⟩) .empty
    let movement : Movement := .allocate (.ofNat 3) forest.id .main
    let half := depot.perform moments 60 (movement.operation 2)
    let whole := half.2.perform moments 60 (movement.operation 3)
    let once := depot.perform moments 60 (movement.operation (2 + 3))
    Attainable moments 60 depot ∧ (1 : Int) ≤ 2 ∧ (1 : Int) ≤ 3 ∧ half.1.isOk = true ∧
      whole.1.isOk = true ∧ whole.2.store.untimed = once.2.store.untimed := by
  intro moments forest made depot movement half whole once
  have attainable : Attainable moments 60 depot :=
    .perform (.perform (.perform (.perform .empty _) _) _) _
  have succeeded : once.1.isOk = true := by decide +kernel
  have two : (1 : Int) ≤ 2 := by decide
  have three : (1 : Int) ≤ 3 := by decide
  clear_value depot
  obtain ⟨parts, same⟩ := movements_add_up attainable movement two three
  obtain ⟨first, second⟩ := parts.mpr succeeded
  exact ⟨attainable, two, three, first, second, same succeeded⟩

end Inventory

end CardInventory
