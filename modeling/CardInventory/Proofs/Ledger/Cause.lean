import CardInventory.Proofs.Ledger.Refusal

/-!
# Causes in their order

What may keep a movement from being made, listed in the order in which it is looked
for. A movement is refused for the first cause in its list that there is, and made
where there is none. The parts of a movement look for some causes over again; over
valid tables they find nothing that the list does not have.
-/

namespace CardInventory

open Memory

namespace Ledger

/-- The cause to refuse an operation where a condition holds. -/
def causeIf (condition : Prop) [Decidable condition] (failure : Failure) : Option Failure :=
  if condition then some failure else none

/-- The first cause there is. -/
def firstCause (causes : List (Option Failure)) : Option Failure :=
  causes.findSome? id

section Causes

variable {condition : Prop} [Decidable condition] {failure : Failure} {cause : Option Failure}

theorem causeIf_or : (causeIf condition failure).or cause =
    if condition then some failure else cause := by
  unfold causeIf
  split <;> rfl

theorem causeIf_eq_none_iff : causeIf condition failure = none ↔ ¬ condition := by
  simp [causeIf]

@[simp]
theorem firstCause_nil : firstCause [] = none :=
  rfl

@[simp]
theorem firstCause_cons (rest : List (Option Failure)) :
    firstCause (cause :: rest) = cause.or (firstCause rest) := by
  cases cause <;> rfl

@[simp]
theorem firstCause_append (causes rest : List (Option Failure)) :
    firstCause (causes ++ rest) = (firstCause causes).or (firstCause rest) :=
  List.findSome?_append

theorem firstCause_eq_none_iff {causes : List (Option Failure)} :
    firstCause causes = none ↔ ∀ cause ∈ causes, cause = none :=
  List.findSome?_eq_none_iff

end Causes

end Ledger

namespace Memory.Store

open Ledger

variable (store : Store) (source destination deck card : Uuid) (quantity : Int)

/-- The owner of a deck, if it exists. -/
def ownerOf? : Option Uuid :=
  (store.decks.get? deck).map fun row => row.owner

/-- The copies of a card in the binder of a deck's owner. -/
def heldByOwner : Int :=
  (store.ownerOf? deck).elim 0 fun owner => store.held owner card

/-- The zone copies are removed from: the one that is named, and without a name the main
zone where it has an entry of the card, and the sideboard where it has none. -/
def sourceZone : Option Zone → Zone
  | some zone => zone
  | none => if store.entries.contains ⟨deck, card, .main⟩ then .main else .sideboard

/-- The limit of a deck, if it exists and has one. -/
def limitOf? : Option Int :=
  (store.decks.get? deck).bind fun row => row.capacity

/-- The cause to refuse copies for a deck that would be over its limit. -/
def capacityCause : Option Failure :=
  (store.limitOf? deck).bind fun limit =>
    causeIf (limit < store.copiesIn deck + quantity)
      (.overCapacity (store.copiesIn deck) limit quantity)

/-- What may keep copies from being removed from a zone. -/
def removalCauses (zone : Zone) : List (Option Failure) :=
  [causeIf (store.entries.contains ⟨deck, card, zone⟩ = false)
      (.notFound .deckEntry s!"{deck}/{card}"),
    causeIf (store.placed deck card zone < quantity)
      (.insufficient (store.placed deck card zone) quantity)]

/-- The cause to refuse copies for the binder of a deck's owner that would have too many. -/
def holdingCause : Option Failure :=
  causeIf (Width.greatest 32 < store.heldByOwner deck card + quantity)
    (.invalid (.holdingCannotGrow (store.heldByOwner deck card) quantity))

/-- The cause to refuse copies for a zone of a deck that would have too many. -/
def entryCause (zone : Zone) : Option Failure :=
  causeIf (Width.greatest 32 < store.placed deck card zone + quantity)
    (.invalid (.entryCannotGrow (store.placed deck card zone) quantity))

/-- What may keep copies of a binder from a zone of a deck. -/
def allocationCauses (zone : Zone) : List (Option Failure) :=
  [causeIf (quantity ≤ 0) (.invalid (.quantityNotPositive quantity)),
    causeIf (store.decks.contains deck = false) (.notFound .deck deck.text),
    causeIf (store.cards.contains card = false) (.notFound .card card.text),
    store.capacityCause deck quantity,
    causeIf (store.heldByOwner deck card < quantity)
      (.insufficient (store.heldByOwner deck card) quantity),
    store.entryCause deck card quantity zone]

/-- What may keep copies of a deck from the binder. -/
def deallocationCauses (zone : Option Zone) : List (Option Failure) :=
  [causeIf (quantity ≤ 0) (.invalid (.quantityNotPositive quantity)),
    causeIf (store.decks.contains deck = false) (.notFound .deck deck.text)] ++
  store.removalCauses deck card quantity (store.sourceZone deck card zone) ++
  [store.holdingCause deck card quantity]

/-- What may keep copies of one zone of a deck from the other. -/
def zoneMoveCauses (source target : Zone) : List (Option Failure) :=
  [causeIf (quantity ≤ 0) (.invalid (.quantityNotPositive quantity)),
    causeIf (source = target) (.invalid (.alreadyInZone target)),
    causeIf (store.decks.contains deck = false) (.notFound .deck deck.text)] ++
  store.removalCauses deck card quantity source ++
  [store.entryCause deck card quantity target]

/-- What may keep copies of one deck from the main zone of another. -/
def transferCauses (zone : Option Zone) : List (Option Failure) :=
  [causeIf (quantity ≤ 0) (.invalid (.quantityNotPositive quantity)),
    causeIf (source = destination) (.invalid .sameDeck),
    causeIf (store.decks.contains source = false) (.notFound .deck source.text),
    causeIf (store.decks.contains destination = false) (.notFound .deck destination.text),
    causeIf (store.ownerOf? source ≠ store.ownerOf? destination) (.invalid .differentOwners),
    store.capacityCause destination quantity] ++
  store.removalCauses source card quantity (store.sourceZone source card zone) ++
  [store.holdingCause source card quantity, store.entryCause destination card quantity .main]

/-- Copies of a binder may go to a zone of a deck. -/
def CanAllocate (zone : Zone) : Prop :=
  0 < quantity ∧ store.decks.contains deck = true ∧ store.cards.contains card = true ∧
    (∀ limit, store.limitOf? deck = some limit → store.copiesIn deck + quantity ≤ limit) ∧
    quantity ≤ store.heldByOwner deck card ∧
    store.placed deck card zone + quantity ≤ Width.greatest 32

/-- Copies of a deck may go back to the binder. -/
def CanDeallocate (zone : Option Zone) : Prop :=
  0 < quantity ∧ store.decks.contains deck = true ∧
    store.entries.contains ⟨deck, card, store.sourceZone deck card zone⟩ = true ∧
    quantity ≤ store.placed deck card (store.sourceZone deck card zone) ∧
    store.heldByOwner deck card + quantity ≤ Width.greatest 32

/-- Copies of one zone of a deck may go to the other. -/
def CanMoveZone (source target : Zone) : Prop :=
  0 < quantity ∧ source ≠ target ∧ store.decks.contains deck = true ∧
    quantity ≤ store.placed deck card source ∧
    store.placed deck card target + quantity ≤ Width.greatest 32

variable {store source destination deck card quantity}

/-! ## No cause -/

theorem capacityCause_eq_none_iff :
    store.capacityCause deck quantity = none ↔
      ∀ limit, store.limitOf? deck = some limit → store.copiesIn deck + quantity ≤ limit := by
  simp only [capacityCause, Option.bind_eq_none_iff, causeIf_eq_none_iff, Int.not_lt]

theorem removalCauses_eq_none_iff {zone : Zone} :
    (∀ cause ∈ store.removalCauses deck card quantity zone, cause = none) ↔
      store.entries.contains ⟨deck, card, zone⟩ = true ∧
        quantity ≤ store.placed deck card zone := by
  simp [removalCauses, causeIf_eq_none_iff]

/-- Where there are copies, there is an entry. -/
theorem contains_of_placed {zone : Zone} (enough : 0 < store.placed deck card zone) :
    store.entries.contains ⟨deck, card, zone⟩ = true := by
  cases found : store.entries.get? ⟨deck, card, zone⟩ with
  | none => simp [placed, found] at enough
  | some entry => exact Table.contains_of_get? found

theorem canAllocate_iff {zone : Zone} :
    (∀ cause ∈ store.allocationCauses deck card quantity zone, cause = none) ↔
      store.CanAllocate deck card quantity zone := by
  simp [allocationCauses, CanAllocate, entryCause, causeIf_eq_none_iff, capacityCause_eq_none_iff]

theorem canDeallocate_iff {zone : Option Zone} :
    (∀ cause ∈ store.deallocationCauses deck card quantity zone, cause = none) ↔
      store.CanDeallocate deck card quantity zone := by
  simp only [deallocationCauses, List.forall_mem_append, removalCauses_eq_none_iff]
  simp [CanDeallocate, holdingCause, causeIf_eq_none_iff, and_assoc]

theorem canMoveZone_iff {source target : Zone} :
    (∀ cause ∈ store.zoneMoveCauses deck card quantity source target, cause = none) ↔
      store.CanMoveZone deck card quantity source target := by
  simp only [zoneMoveCauses, List.forall_mem_append, removalCauses_eq_none_iff]
  simp only [CanMoveZone, entryCause, List.forall_mem_cons, List.not_mem_nil, false_implies,
    implies_true, causeIf_eq_none_iff, Int.not_le, Int.not_lt, Bool.not_eq_false, and_true,
    and_assoc]
  constructor
  · rintro ⟨positive, different, deckExists, -, enough, small⟩
    exact ⟨positive, different, deckExists, enough, small⟩
  · rintro ⟨positive, different, deckExists, enough, small⟩
    have present := contains_of_placed (Int.lt_of_lt_of_le positive enough)
    exact ⟨positive, different, deckExists, present, enough, small⟩

/-! ## The first cause -/

theorem capacityCause_of_found {row : Deck} (found : store.decks.get? deck = some row) :
    store.capacityCause deck quantity =
      match checkCapacity row.capacity (store.copiesIn deck) quantity with
      | .error failure => some failure
      | .ok _ => none := by
  rw [capacityCause, limitOf?, found, Option.bind_some]
  cases row.capacity with
  | none => rfl
  | some limit =>
      simp only [Option.bind_some, causeIf, checkCapacity]
      split <;> rfl

theorem heldByOwner_of_found {row : Deck} (found : store.decks.get? deck = some row) :
    store.heldByOwner deck card = store.held row.owner card := by
  simp [heldByOwner, ownerOf?, found]

/-- A removal looks at the entry of one zone. -/
theorem removalEntry?_eq (store : Store) (deck card : Uuid) (zone : Option Zone) :
    store.removalEntry? deck card zone =
      store.entries.get? ⟨deck, card, store.sourceZone deck card zone⟩ := by
  unfold removalEntry?
  cases zone with
  | some zone => cases found : store.entries.get? ⟨deck, card, zone⟩ <;>
      simp [removalZones, sourceZone, found]
  | none =>
      cases main : store.entries.get? ⟨deck, card, .main⟩ <;>
        cases side : store.entries.get? ⟨deck, card, .sideboard⟩ <;>
          simp [removalZones, Zone.removalOrder, sourceZone, Table.contains, main, side]

/-- The causes to refuse a removal are those of the zone it looks at. -/
theorem removalRefusal_eq (valid : store.Valid) (positive : 0 < quantity) (deck card : Uuid)
    (zone : Option Zone) :
    store.removalRefusal deck card quantity zone =
      firstCause (store.removalCauses deck card quantity (store.sourceZone deck card zone)) := by
  simp only [removalRefusal, removalEntry?_eq, removalCauses, firstCause_cons, firstCause_nil,
    causeIf_or, Int.not_le.mpr positive, if_false]
  cases found : store.entries.get? ⟨deck, card, store.sourceZone deck card zone⟩ with
  | none => simp [Table.contains, found]
  | some entry =>
      obtain ⟨-, placing, -⟩ := valid.get?_entries found
      simp [Table.contains, found, placing]

theorem creditRefusal_eq {user : Uuid} (positive : 0 < quantity)
    (userExists : store.users.contains user = true)
    (cardExists : store.cards.contains card = true) :
    store.creditRefusal user card quantity =
      causeIf (Width.greatest 32 < store.held user card + quantity)
        (.invalid (.holdingCannotGrow (store.held user card) quantity)) := by
  simp [creditRefusal, causeIf, Int.not_le.mpr positive, userExists, cardExists]

theorem additionRefusal_eq {zone : Zone} (positive : 0 < quantity)
    (deckExists : store.decks.contains deck = true)
    (cardExists : store.cards.contains card = true) :
    store.additionRefusal deck card quantity zone = store.entryCause deck card quantity zone := by
  simp [additionRefusal, entryCause, causeIf, Int.not_le.mpr positive, deckExists, cardExists]

/-- What is looked at after a removal has been accepted counts as if the card exists. -/
theorem removalRefusal_or (valid : store.Valid) {zone : Option Zone} {cause cause' : Option Failure}
    (same : store.cards.contains card = true → cause = cause') :
    (store.removalRefusal deck card quantity zone).or cause =
      (store.removalRefusal deck card quantity zone).or cause' := by
  cases accepted : store.removalRefusal deck card quantity zone with
  | some failure => rfl
  | none =>
      obtain ⟨-, -, -, cardExists, -⟩ := removalRefusal_eq_none valid accepted
      rw [same cardExists]

theorem firstCause_allocationCauses (store : Store) (deck card : Uuid) (quantity : Int)
    (zone : Zone) :
    firstCause (store.allocationCauses deck card quantity zone) =
      store.allocationRefusal deck card quantity zone := by
  simp only [allocationCauses, firstCause_cons, firstCause_nil, causeIf_or, Option.or_none,
    allocationRefusal]
  split
  · rfl
  · rename_i nonneg
    cases found : store.decks.get? deck with
    | none => simp [Table.contains, found]
    | some row =>
        have deckExists : store.decks.contains deck = true := Table.contains_of_get? found
        simp only [deckExists, Bool.true_eq_false, if_false, capacityCause_of_found found,
          heldByOwner_of_found found]
        split
        · rfl
        · rename_i known
          have cardExists : store.cards.contains card = true := by simpa using known
          rw [additionRefusal_eq (Int.not_le.mp nonneg) deckExists cardExists]
          cases checkCapacity row.capacity (store.copiesIn deck) quantity <;> rfl

theorem firstCause_deallocationCauses (valid : store.Valid) (deck card : Uuid) (quantity : Int)
    (zone : Option Zone) :
    firstCause (store.deallocationCauses deck card quantity zone) =
      store.deallocationRefusal deck card quantity zone := by
  simp only [deallocationCauses, List.cons_append, List.nil_append, firstCause_append,
    firstCause_cons, firstCause_nil, causeIf_or, Option.or_none, deallocationRefusal]
  split
  · rfl
  · rename_i nonneg
    have positive := Int.not_le.mp nonneg
    cases found : store.decks.get? deck with
    | none => simp [Table.contains, found]
    | some row =>
        have deckExists : store.decks.contains deck = true := Table.contains_of_get? found
        simp only [deckExists, Bool.true_eq_false, if_false,
          ← removalRefusal_eq valid positive, holdingCause, heldByOwner_of_found found]
        exact (removalRefusal_or valid (creditRefusal_eq positive (valid.decks found).owner)).symm

theorem firstCause_zoneMoveCauses (valid : store.Valid) (deck card : Uuid) (quantity : Int)
    (source target : Zone) :
    firstCause (store.zoneMoveCauses deck card quantity source target) =
      store.zoneMoveRefusal deck card quantity source target := by
  simp only [zoneMoveCauses, List.cons_append, List.nil_append, firstCause_append,
    firstCause_cons, firstCause_nil, causeIf_or, Option.or_none, zoneMoveRefusal]
  split
  · rfl
  · rename_i nonneg
    have positive := Int.not_le.mp nonneg
    split
    · rfl
    · split
      · rfl
      · rename_i known
        have deckExists : store.decks.contains deck = true := by simpa using known
        have removal := removalRefusal_eq valid positive deck card (some source)
        rw [sourceZone] at removal
        rw [← removal]
        exact (removalRefusal_or valid (additionRefusal_eq positive deckExists)).symm

theorem firstCause_transferCauses (valid : store.Valid) (source destination card : Uuid)
    (quantity : Int) (zone : Option Zone) :
    firstCause (store.transferCauses source destination card quantity zone) =
      store.transferRefusal source destination card quantity zone := by
  simp only [transferCauses, List.cons_append, List.nil_append, firstCause_append,
    firstCause_cons, firstCause_nil, causeIf_or, Option.or_none, transferRefusal]
  split
  · rfl
  · rename_i nonneg
    split
    · rfl
    · cases sourceFound : store.decks.get? source with
      | none => simp [Table.contains, sourceFound]
      | some sourceRow =>
          cases found : store.decks.get? destination with
          | none => simp [Table.contains, sourceFound, found]
          | some row =>
              have positive := Int.not_le.mp nonneg
              have deckExists : store.decks.contains destination = true :=
                Table.contains_of_get? found
              have owners : store.ownerOf? source ≠ store.ownerOf? destination ↔
                  sourceRow.owner ≠ row.owner := by simp [ownerOf?, sourceFound, found]
              simp only [Table.contains_of_get? sourceFound, deckExists, Bool.true_eq_false,
                if_false, owners, capacityCause_of_found found]
              split
              · rfl
              · cases checkCapacity row.capacity (store.copiesIn destination) quantity with
                | error failure => rfl
                | ok _ =>
                    simp only [deallocationRefusal, nonneg, if_false, sourceFound, Option.none_or,
                      Option.or_assoc, holdingCause, heldByOwner_of_found sourceFound,
                      ← removalRefusal_eq valid positive]
                    refine (removalRefusal_or valid fun cardExists => ?_).symm
                    rw [creditRefusal_eq positive (valid.decks sourceFound).owner cardExists,
                      additionRefusal_eq positive deckExists cardExists]

end Memory.Store

end CardInventory
