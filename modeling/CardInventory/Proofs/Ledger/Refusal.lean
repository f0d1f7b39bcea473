import CardInventory.Ledger.Movement
import CardInventory.Proofs.Memory.Limits

/-!
# Causes of refusal

For each rule that moves copies, the first cause to refuse it, as a function of
the tables alone. A rule is accepted where there is no cause. Two kinds of cause
matter later on: that a number of copies would not take 32 bits, which a movement
may find out after it has changed something, and that a deck would be over its
limit, which is reported with the numbers it was found from.
-/

namespace CardInventory

open Memory

namespace Ledger

/-- Whether an operation is refused because a number of copies would not take 32 bits. -/
def Failure.cannotGrow : Failure → Bool
  | .invalid (.holdingCannotGrow _ _) => true
  | .invalid (.entryCannotGrow _ _) => true
  | _ => false

/-- Whether an operation is refused because of the limit of a deck. -/
def Failure.exceeds : Failure → Bool
  | .overCapacity _ _ _ => true
  | _ => false

theorem checkCapacity_eq_error_iff {limit : Option Int} {current attempted : Int}
    {failure : Failure} :
    checkCapacity limit current attempted = .error failure ↔
      ∃ bound, limit = some bound ∧ bound < current + attempted ∧
        failure = .overCapacity current bound attempted := by
  cases limit with
  | none => simp [checkCapacity]
  | some bound =>
      by_cases beyond : bound < current + attempted <;> simp [checkCapacity, beyond, eq_comm]

theorem checkCapacity_eq_ok_iff {limit : Option Int} {current attempted : Int} :
    checkCapacity limit current attempted = .ok () ↔
      ∀ bound, limit = some bound → current + attempted ≤ bound := by
  cases limit with
  | none => simp [checkCapacity]
  | some bound =>
      by_cases beyond : bound < current + attempted
      · simp [checkCapacity, beyond]
      · simpa [checkCapacity, beyond] using Int.not_lt.mp beyond

/-- What only a number of copies can keep from being so is so for any other cause. -/
theorem of_cannotGrow {failure : Failure} {kept : Prop} (large : failure.cannotGrow = true)
    (small : failure.cannotGrow = false) : kept :=
  absurd (small.symm.trans large) Bool.false_ne_true

/-- Whatever cause there is has a property. -/
def Causes (property : Failure → Prop) (cause : Option Failure) : Prop :=
  ∀ ⦃failure⦄, cause = some failure → property failure

section Causes

variable {property : Failure → Prop} {condition : Prop} [Decidable condition]
  {cause failure : Failure} {rest : Option Failure}

theorem Causes.none : Causes property none :=
  fun _ refused => nomatch refused

theorem Causes.some (first : property cause) : Causes property (some cause) :=
  fun _ refused => Option.some.inj refused ▸ first

/-- Of a chain of causes the first one counts, and the others where it is not given. -/
theorem Causes.check (first : condition → property cause)
    (others : ¬ condition → Causes property rest) :
    Causes property (if condition then .some cause else rest) := by
  by_cases given : condition
  · rw [if_pos given]
    exact .some (first given)
  · rw [if_neg given]
    exact others given

theorem Causes.or {causes : Option Failure} (first : Causes property causes)
    (others : causes = .none → Causes property rest) : Causes property (causes.or rest) := by
  intro failure refused
  rcases Option.or_eq_some_iff.mp refused with early | ⟨accepted, late⟩
  · exact first early
  · exact others accepted late

theorem accepted_iff :
    (if condition then .some cause else rest) = .none ↔ ¬ condition ∧ rest = .none := by
  by_cases given : condition <;> simp [given]

end Causes

end Ledger

namespace Memory.Store

open Ledger

/-- The first cause to refuse a credit. -/
def creditRefusal (store : Store) (user card : Uuid) (quantity : Int) : Option Failure :=
  if quantity ≤ 0 then some (.invalid (.quantityNotPositive quantity))
  else if store.users.contains user = false then some (.notFound .user user.text)
  else if store.cards.contains card = false then some (.notFound .card card.text)
  else if Width.greatest 32 < store.held user card + quantity then
    some (.invalid (.holdingCannotGrow (store.held user card) quantity))
  else none

/-- The first cause to refuse a debit. -/
def debitRefusal (store : Store) (user card : Uuid) (quantity : Int) : Option Failure :=
  if quantity ≤ 0 then some (.invalid (.quantityNotPositive quantity))
  else if store.held user card = 0 then some (.notFound .binderEntry s!"{user}/{card}")
  else if store.held user card < quantity then
    some (.insufficient (store.held user card) quantity)
  else none

/-- The first cause to refuse copies for a zone of a deck. -/
def additionRefusal (store : Store) (deck card : Uuid) (quantity : Int) (zone : Zone) :
    Option Failure :=
  if quantity ≤ 0 then some (.invalid (.quantityNotPositive quantity))
  else if store.decks.contains deck = false then some (.notFound .deck deck.text)
  else if store.cards.contains card = false then some (.notFound .card card.text)
  else if Width.greatest 32 < store.placed deck card zone + quantity then
    some (.invalid (.entryCannotGrow (store.placed deck card zone) quantity))
  else none

/-- The entry a removal takes copies from. -/
def removalEntry? (store : Store) (deck card : Uuid) (zone : Option Zone) : Option DeckEntry :=
  (removalZones zone).findSome? fun zone => store.entries.get? ⟨deck, card, zone⟩

/-- The first cause to refuse a removal of copies from a deck. -/
def removalRefusal (store : Store) (deck card : Uuid) (quantity : Int) (zone : Option Zone) :
    Option Failure :=
  if quantity ≤ 0 then some (.invalid (.quantityNotPositive quantity))
  else
    match store.removalEntry? deck card zone with
    | none => some (.notFound .deckEntry s!"{deck}/{card}")
    | some entry =>
        if entry.quantity < quantity then some (.insufficient entry.quantity quantity) else none

/-- The first cause to refuse copies from the binder for a deck. -/
def allocationRefusal (store : Store) (deck card : Uuid) (quantity : Int) (zone : Zone) :
    Option Failure :=
  if quantity ≤ 0 then some (.invalid (.quantityNotPositive quantity))
  else
    match store.decks.get? deck with
    | none => some (.notFound .deck deck.text)
    | some row =>
        if store.cards.contains card = false then some (.notFound .card card.text)
        else
          match checkCapacity row.capacity (store.copiesIn deck) quantity with
          | .error failure => some failure
          | .ok _ =>
              if store.held row.owner card < quantity then
                some (.insufficient (store.held row.owner card) quantity)
              else store.additionRefusal deck card quantity zone

/-- The first cause to refuse copies from a deck for the binder. -/
def deallocationRefusal (store : Store) (deck card : Uuid) (quantity : Int)
    (zone : Option Zone) : Option Failure :=
  if quantity ≤ 0 then some (.invalid (.quantityNotPositive quantity))
  else
    match store.decks.get? deck with
    | none => some (.notFound .deck deck.text)
    | some row =>
        (store.removalRefusal deck card quantity zone).or
          (store.creditRefusal row.owner card quantity)

/-- The first cause to refuse copies from a deck for another deck. -/
def transferRefusal (store : Store) (source destination card : Uuid) (quantity : Int)
    (zone : Option Zone) : Option Failure :=
  if quantity ≤ 0 then some (.invalid (.quantityNotPositive quantity))
  else if source = destination then some (.invalid .sameDeck)
  else
    match store.decks.get? source, store.decks.get? destination with
    | none, _ => some (.notFound .deck source.text)
    | some _, none => some (.notFound .deck destination.text)
    | some sourceRow, some row =>
        if sourceRow.owner ≠ row.owner then some (.invalid .differentOwners)
        else
          match checkCapacity row.capacity (store.copiesIn destination) quantity with
          | .error failure => some failure
          | .ok _ =>
              (store.deallocationRefusal source card quantity zone).or
                (store.additionRefusal destination card quantity .main)

/-- The first cause to refuse copies from one zone of a deck for another. -/
def zoneMoveRefusal (store : Store) (deck card : Uuid) (quantity : Int) (source target : Zone) :
    Option Failure :=
  if quantity ≤ 0 then some (.invalid (.quantityNotPositive quantity))
  else if source = target then some (.invalid (.alreadyInZone target))
  else if store.decks.contains deck = false then some (.notFound .deck deck.text)
  else
    (store.removalRefusal deck card quantity (some source)).or
      (store.additionRefusal deck card quantity target)

variable {store : Store} {user deck source destination card : Uuid} {quantity : Int}
  {failure : Failure}

/-! ## Changes of one row -/

theorem creditRefusal_eq_none_iff :
    store.creditRefusal user card quantity = none ↔
      0 < quantity ∧ store.users.contains user = true ∧ store.cards.contains card = true ∧
        store.held user card + quantity ≤ Width.greatest 32 := by
  simp only [creditRefusal, accepted_iff, Int.not_le, Bool.not_eq_false, Int.not_lt, and_true]

/-- Copies of a card that exists are refused to a user who exists only for their number. -/
theorem creditRefusal_cannotGrow (positive : 0 < quantity)
    (userExists : store.users.contains user = true)
    (cardExists : store.cards.contains card = true) :
    Causes (fun failure => failure.cannotGrow = true)
      (store.creditRefusal user card quantity) := by
  refine .check (fun nonpositive => ?_) fun _ => .check (fun missing => ?_) fun _ =>
    .check (fun missing => ?_) fun _ => .check (fun _ => rfl) fun _ => .none
  · omega
  · simp [userExists] at missing
  · simp [cardExists] at missing

theorem creditRefusal_large :
    Causes (fun failure => failure.cannotGrow = true →
        Width.greatest 32 < store.held user card + quantity)
      (store.creditRefusal user card quantity) :=
  .check (fun _ => nofun) fun _ => .check (fun _ => nofun) fun _ => .check (fun _ => nofun) fun _ =>
    .check (fun tooLarge _ => tooLarge) fun _ => .none

theorem creditRefusal_not_exceeds :
    Causes (fun failure => failure.exceeds = false) (store.creditRefusal user card quantity) :=
  .check (fun _ => rfl) fun _ => .check (fun _ => rfl) fun _ => .check (fun _ => rfl) fun _ =>
    .check (fun _ => rfl) fun _ => .none

theorem debitRefusal_eq_none_iff :
    store.debitRefusal user card quantity = none ↔
      0 < quantity ∧ quantity ≤ store.held user card := by
  simp only [debitRefusal, accepted_iff, Int.not_le, Int.not_lt, and_true]
  constructor
  · rintro ⟨positive, -, enough⟩
    exact ⟨positive, enough⟩
  · rintro ⟨positive, enough⟩
    exact ⟨positive, by omega, enough⟩

theorem debitRefusal_not_exceeds :
    Causes (fun failure => failure.exceeds = false) (store.debitRefusal user card quantity) :=
  .check (fun _ => rfl) fun _ => .check (fun _ => rfl) fun _ => .check (fun _ => rfl) fun _ =>
    .none

theorem additionRefusal_eq_none_iff {zone : Zone} :
    store.additionRefusal deck card quantity zone = none ↔
      0 < quantity ∧ store.decks.contains deck = true ∧ store.cards.contains card = true ∧
        store.placed deck card zone + quantity ≤ Width.greatest 32 := by
  simp only [additionRefusal, accepted_iff, Int.not_le, Bool.not_eq_false, Int.not_lt, and_true]

/-- Copies of a card that exists are refused by a deck that exists only for their number. -/
theorem additionRefusal_cannotGrow {zone : Zone} (positive : 0 < quantity)
    (deckExists : store.decks.contains deck = true)
    (cardExists : store.cards.contains card = true) :
    Causes (fun failure => failure.cannotGrow = true)
      (store.additionRefusal deck card quantity zone) := by
  refine .check (fun nonpositive => ?_) fun _ => .check (fun missing => ?_) fun _ =>
    .check (fun missing => ?_) fun _ => .check (fun _ => rfl) fun _ => .none
  · omega
  · simp [deckExists] at missing
  · simp [cardExists] at missing

theorem additionRefusal_large {zone : Zone} :
    Causes (fun failure => failure.cannotGrow = true →
        Width.greatest 32 < store.placed deck card zone + quantity)
      (store.additionRefusal deck card quantity zone) :=
  .check (fun _ => nofun) fun _ => .check (fun _ => nofun) fun _ => .check (fun _ => nofun) fun _ =>
    .check (fun tooLarge _ => tooLarge) fun _ => .none

theorem additionRefusal_not_exceeds {zone : Zone} :
    Causes (fun failure => failure.exceeds = false)
      (store.additionRefusal deck card quantity zone) :=
  .check (fun _ => rfl) fun _ => .check (fun _ => rfl) fun _ => .check (fun _ => rfl) fun _ =>
    .check (fun _ => rfl) fun _ => .none

/-- A removal makes no number larger, and no deck fuller. -/
theorem removalRefusal_causes {zone : Option Zone} :
    Causes (fun failure => failure.cannotGrow = false ∧ failure.exceeds = false)
      (store.removalRefusal deck card quantity zone) := by
  refine .check (fun _ => ⟨rfl, rfl⟩) fun _ => ?_
  split
  · exact .some ⟨rfl, rfl⟩
  · exact .check (fun _ => ⟨rfl, rfl⟩) fun _ => .none

theorem additionRefusal_hold (user card' : Uuid) (amount : Int) (time : Instant) (zone : Zone) :
    (store.hold user card' amount time).additionRefusal deck card quantity zone =
      store.additionRefusal deck card quantity zone :=
  rfl

theorem creditRefusal_place (deck card' : Uuid) (zone : Zone) (amount : Int) (time : Instant) :
    (store.place deck card' zone amount time).creditRefusal user card quantity =
      store.creditRefusal user card quantity :=
  rfl

theorem additionRefusal_place {zone zone' : Zone} (different : zone ≠ zone') (amount : Int)
    (time : Instant) :
    (store.place deck card zone amount time).additionRefusal deck card quantity zone' =
      store.additionRefusal deck card quantity zone' := by
  simp only [additionRefusal, place_decks, place_cards,
    placed_place_of_zone_ne _ _ _ _ _ _ different]

/-- The entry copies are removed from carries its zone, one that was looked at. -/
theorem removalEntry?_eq_some (valid : store.Valid) {zone : Option Zone} {entry : DeckEntry}
    (found : store.removalEntry? deck card zone = some entry) :
    entry.zone ∈ removalZones zone ∧
      store.entries.get? ⟨deck, card, entry.zone⟩ = some entry := by
  obtain ⟨own, member, stored⟩ := List.exists_of_findSome?_eq_some found
  obtain ⟨rfl, -, -⟩ := valid.get?_entries stored
  exact ⟨member, stored⟩

/-- Copies that may be removed lie in an entry of a card that exists. -/
theorem removalRefusal_eq_none (valid : store.Valid) {zone : Option Zone}
    (accepted : store.removalRefusal deck card quantity zone = none) :
    ∃ entry, store.removalEntry? deck card zone = some entry ∧ 0 < quantity ∧
      store.cards.contains card = true ∧ entry.zone ∈ removalZones zone ∧
      store.placed deck card entry.zone = entry.quantity ∧ quantity ≤ entry.quantity := by
  simp only [removalRefusal, accepted_iff, Int.not_le] at accepted
  obtain ⟨positive, accepted⟩ := accepted
  cases found : store.removalEntry? deck card zone with
  | none => simp [found] at accepted
  | some entry =>
      simp only [found, accepted_iff, Int.not_lt, and_true] at accepted
      obtain ⟨member, stored⟩ := removalEntry?_eq_some valid found
      obtain ⟨-, placing, -⟩ := valid.get?_entries stored
      exact ⟨entry, rfl, positive, (valid.entries stored).card, member, placing, accepted⟩

/-! ## Movements -/

/-- An allocation is refused early, or for the capacity of the deck, or like the addition
that is its last step. -/
theorem allocationRefusal_cases (store : Store) (deck card : Uuid) (quantity : Int)
    (zone : Zone) :
    (∃ failure, store.allocationRefusal deck card quantity zone = some failure ∧
        failure.cannotGrow = false ∧ failure.exceeds = false) ∨
      (∃ row bound, store.decks.get? deck = some row ∧ row.capacity = some bound ∧
        bound < store.copiesIn deck + quantity ∧
        store.allocationRefusal deck card quantity zone =
          some (.overCapacity (store.copiesIn deck) bound quantity)) ∨
      ∃ row, store.decks.get? deck = some row ∧
        (∀ bound, row.capacity = some bound → store.copiesIn deck + quantity ≤ bound) ∧
        store.allocationRefusal deck card quantity zone =
          store.additionRefusal deck card quantity zone := by
  unfold allocationRefusal
  split
  · exact .inl ⟨_, rfl, rfl, rfl⟩
  · cases found : store.decks.get? deck with
    | none => exact .inl ⟨_, rfl, rfl, rfl⟩
    | some row =>
        simp only
        split
        · exact .inl ⟨_, rfl, rfl, rfl⟩
        · cases capacity : checkCapacity row.capacity (store.copiesIn deck) quantity with
          | error failure =>
              obtain ⟨bound, limited, beyond, rfl⟩ := checkCapacity_eq_error_iff.mp capacity
              exact .inr (.inl ⟨row, bound, rfl, limited, beyond, rfl⟩)
          | ok _ =>
              have fits := checkCapacity_eq_ok_iff.mp capacity
              simp only
              split
              · exact .inl ⟨_, rfl, rfl, rfl⟩
              · exact .inr (.inr ⟨row, rfl, fits, rfl⟩)

theorem deallocationRefusal_not_exceeds {zone : Option Zone} :
    Causes (fun failure => failure.exceeds = false)
      (store.deallocationRefusal deck card quantity zone) := by
  refine .check (fun _ => rfl) fun _ => ?_
  split
  · exact .some rfl
  · exact .or (fun _ refused => (removalRefusal_causes refused).2) fun _ =>
      creditRefusal_not_exceeds

theorem positive_of_deallocationRefusal {zone : Option Zone}
    (accepted : store.deallocationRefusal deck card quantity zone = none) : 0 < quantity :=
  Int.not_le.mp (accepted_iff.mp accepted).1

/-- A transfer is refused early, or for the capacity of the destination, or like one of the
two movements it is made of. -/
theorem transferRefusal_cases (store : Store) (source destination card : Uuid) (quantity : Int)
    (zone : Option Zone) :
    (∃ failure, store.transferRefusal source destination card quantity zone = some failure ∧
        failure.exceeds = false) ∨
      (∃ row bound, store.decks.get? destination = some row ∧ row.capacity = some bound ∧
        bound < store.copiesIn destination + quantity ∧
        store.transferRefusal source destination card quantity zone =
          some (.overCapacity (store.copiesIn destination) bound quantity)) ∨
      ∃ row, 0 < quantity ∧ source ≠ destination ∧
        store.decks.get? destination = some row ∧
        (∀ bound, row.capacity = some bound → store.copiesIn destination + quantity ≤ bound) ∧
        store.transferRefusal source destination card quantity zone =
          (store.deallocationRefusal source card quantity zone).or
            (store.additionRefusal destination card quantity .main) := by
  unfold transferRefusal
  split
  · exact .inl ⟨_, rfl, rfl⟩
  · rename_i positive
    split
    · exact .inl ⟨_, rfl, rfl⟩
    · rename_i different
      cases store.decks.get? source with
      | none => exact .inl ⟨_, rfl, rfl⟩
      | some sourceRow =>
          cases found : store.decks.get? destination with
          | none => exact .inl ⟨_, rfl, rfl⟩
          | some row =>
              simp only
              split
              · exact .inl ⟨_, rfl, rfl⟩
              · cases capacity : checkCapacity row.capacity (store.copiesIn destination)
                    quantity with
                | error failure =>
                    obtain ⟨bound, limited, beyond, rfl⟩ := checkCapacity_eq_error_iff.mp capacity
                    exact .inr (.inl ⟨row, bound, rfl, limited, beyond, rfl⟩)
                | ok _ =>
                    have fits := checkCapacity_eq_ok_iff.mp capacity
                    exact .inr (.inr ⟨row, Int.not_le.mp positive, different, rfl, fits, rfl⟩)

theorem zoneMoveRefusal_not_exceeds {source target : Zone} :
    Causes (fun failure => failure.exceeds = false)
      (store.zoneMoveRefusal deck card quantity source target) :=
  .check (fun _ => rfl) fun _ => .check (fun _ => rfl) fun _ => .check (fun _ => rfl) fun _ =>
    .or (fun _ refused => (removalRefusal_causes refused).2) fun _ => additionRefusal_not_exceeds

/-- A move between zones that cannot grow its target has found the copies in its source. -/
theorem zoneMoveRefusal_large (valid : store.Valid) {source target : Zone} :
    Causes (fun failure => failure.cannotGrow = true →
        source ≠ target ∧ quantity ≤ store.placed deck card source ∧
          Width.greatest 32 < store.placed deck card target + quantity)
      (store.zoneMoveRefusal deck card quantity source target) := by
  refine .check (fun _ => nofun) fun _ => .check (fun _ => nofun) fun different =>
    .check (fun _ => nofun) fun _ => .or ?_ ?_
  · intro failure refused large
    exact of_cannotGrow large (removalRefusal_causes refused).1
  · intro accepted failure refused large
    obtain ⟨entry, -, -, -, member, placing, enough⟩ := removalRefusal_eq_none valid accepted
    obtain rfl : entry.zone = source := List.mem_singleton.mp member
    exact ⟨different, placing ▸ enough, additionRefusal_large refused large⟩

end Memory.Store

end CardInventory
