import CardInventory.Proofs.Inventory.Attainable
import CardInventory.Proofs.Ledger.Relocation
import CardInventory.Proofs.Ledger.Return

/-!
# Exact outcomes of movements

What comes of a movement at an attainable depot is determined by the tables and by
the arguments. It is refused for the first of its causes, and then nothing has
changed; where there is no cause it succeeds, and its copies have changed places and
nothing else has. So it is with the deletion of a deck, whose copies all go back to
the binder of its owner.
-/

namespace CardInventory

open Memory Storage Ledger Inventory

namespace Inventory

/-- An operation succeeds just where it is accepted, and then has an effect. Otherwise it fails
with the first of its causes and leaves the tables as they were. -/
structure Decided {α : Type} (before : Store) (outcome : Except Failure α × Depot)
    (accepted : Prop) (causes : List (Option Failure)) (effect : Store → Prop) : Prop where
  succeeds : outcome.1.isOk = true ↔ accepted
  effect : accepted → effect outcome.2.store
  fails : ∀ failure, outcome.1 = .error failure ↔ firstCause causes = some failure
  kept : ¬ accepted → outcome.2.store = before

/-- Of an effect more may be told with what has been accepted. -/
theorem Decided.mono {α : Type} {before : Store} {outcome : Except Failure α × Depot}
    {accepted : Prop} {causes : List (Option Failure)} {effect effect' : Store → Prop}
    (decided : Decided before outcome accepted causes effect)
    (more : accepted → ∀ after, effect after → effect' after) :
    Decided before outcome accepted causes effect' :=
  { decided with effect := fun accepts => more accepts _ (decided.effect accepts) }

variable {moments : Nat → Moment} {defaultCapacity : Int} {depot : Depot}

/-- A rule that is refused for the first of its causes, and reports an effect where it succeeds,
decides the outcome of its operation. -/
theorem decided_of_ends (attainable : Attainable moments defaultCapacity depot)
    (operation : Operation) (mutates : operation.mutates = true) {accepted : Prop}
    {causes : List (Option Failure)} {effect : Store → Prop}
    (known : (∀ cause ∈ causes, cause = none) ↔ accepted)
    (ends : ∀ drawn, (operation.task defaultCapacity).Ends (answerNext moments) .storage
      ⟨depot.store, drawn⟩ (fun _ _ => firstCause causes = none)
      (fun failure _ => firstCause causes = some failure))
    (reports : Reports moments depot.store (operation.task defaultCapacity)
      fun _ after => effect after) :
    Decided depot.store (depot.perform moments defaultCapacity operation) accepted causes
      fun after => effect after ∧ after.Tidy := by
  have tidy : (depot.perform moments defaultCapacity operation).2.store.Tidy :=
    (perform_valid attainable.valid operation).tidy
  have ended := (ends depot.drawn).and (reports depot.drawn)
  rw [← known, ← firstCause_eq_none_iff]
  rw [Depot.perform_eq_run attainable.refusal] at tidy ⊢
  rcases ran : (operation.task defaultCapacity).run (answerNext moments) .storage
    ⟨depot.store, depot.drawn⟩ with ⟨failure | value, staged⟩
  · rw [ran]
    obtain ⟨refused, -⟩ := ended.error ran
    constructor
    · simp [refused, Except.isOk, Except.toBool]
    · simp [refused]
    · simp [refused]
    · exact fun _ => rfl
  · rw [ran] at tidy ⊢
    rw [mutates] at tidy ⊢
    obtain ⟨accepted, changed⟩ := ended.ok ran
    constructor
    · simp [accepted, Except.isOk, Except.toBool]
    · exact fun _ => ⟨changed, tidy⟩
    · simp [accepted]
    · exact fun refused => absurd accepted refused

/-- An allocation, a deallocation and a move between zones succeed just where each of their
conditions holds, fail with the first that does not, and when they succeed change the rows of two
places, a row being there where copies are. -/
theorem movement_outcomes (attainable : Attainable moments defaultCapacity depot) :
    (∀ deck card quantity zone,
      Decided depot.store
        (depot.perform moments defaultCapacity (.allocate deck card quantity zone))
        (depot.store.CanAllocate deck card quantity zone)
        (depot.store.allocationCauses deck card quantity zone)
        fun after => (∃ owner, depot.store.ownerOf? deck = some owner ∧
          Store.Relocated depot.store after (.binder owner card) (.zone deck card zone) quantity
            []) ∧ after.Tidy) ∧
      (∀ deck card quantity zone,
        Decided depot.store
          (depot.perform moments defaultCapacity (.deallocate deck card quantity zone))
          (depot.store.CanDeallocate deck card quantity zone)
          (depot.store.deallocationCauses deck card quantity zone)
          fun after => (∃ owner, depot.store.ownerOf? deck = some owner ∧
            Store.Relocated depot.store after
              (.zone deck card (depot.store.sourceZone deck card zone)) (.binder owner card)
              quantity []) ∧ after.Tidy) ∧
      ∀ deck card quantity source target,
        Decided depot.store
          (depot.perform moments defaultCapacity (.moveZone deck card quantity source target))
          (depot.store.CanMoveZone deck card quantity source target)
          (depot.store.zoneMoveCauses deck card quantity source target)
          fun after => Store.Relocated depot.store after (.zone deck card source)
            (.zone deck card target) quantity [] ∧ after.Tidy := by
  have valid := attainable.valid
  constructor
  · intro deck card quantity zone
    apply decided_of_ends attainable _ rfl Store.canAllocate_iff
    · intro drawn
      rw [Store.firstCause_allocationCauses]
      exact (allocate_ends valid deck card quantity zone).mono (fun _ _ ended => ended.1)
        fun _ _ failed => failed.1
    · exact allocate_relocates valid deck card quantity zone
  constructor
  · intro deck card quantity zone
    apply decided_of_ends attainable _ rfl Store.canDeallocate_iff
    · intro drawn
      rw [Store.firstCause_deallocationCauses valid]
      exact (deallocate_ends valid deck card quantity zone).mono (fun _ _ ended => ended.1)
        fun _ _ failed => failed.1
    · exact Reports.mono (deallocate_relocates valid deck card quantity zone)
        fun _ _ reported => reported.2
  · intro deck card quantity source target
    apply decided_of_ends attainable _ rfl Store.canMoveZone_iff
    · intro drawn
      rw [Store.firstCause_zoneMoveCauses valid]
      exact (moveZone_ends valid deck card quantity source target).mono (fun _ _ ended => ended.1)
        fun _ _ failed => failed.1
    · exact moveZone_relocates valid deck card quantity source target

/-- Of two copies in a main zone and two in the sideboard, three are not to be had by a removal
that names no zone, though four are there. -/
theorem unnamed_removal_looks_at_main :
    let moments : Nat → Moment := fun n => ⟨⟨n, 0⟩, .ofNat n⟩
    let forest : CardDraft := ⟨.ofNat 7, "Forest", none, none, none, none, [default]⟩
    let made := fun (operation : Operation) (depot : Depot) =>
      (depot.perform moments 60 operation).2
    let depot := made (.allocate (.ofNat 3) forest.id 2 .sideboard) <|
      made (.allocate (.ofNat 3) forest.id 2 .main) <|
      made (.creditBinder (.ofNat 0) forest.id 4) <|
      made (.createDeck ⟨.ofNat 0, "Elves", "modern", none, false, none⟩) <|
      made (.registerCard forest) <| made (.createUser ⟨"ada", none⟩) .empty
    Attainable moments 60 depot ∧
      depot.store.copiesIn (.ofNat 3) = 4 ∧
      (depot.perform moments 60 (.deallocate (.ofNat 3) forest.id 3 none)).1 =
        .error (.insufficient 2 3) := by
  intro moments forest made depot
  have attainable : Attainable moments 60 depot :=
    .perform (.perform (.perform (.perform (.perform (.perform .empty _) _) _) _) _) _
  have total : depot.store.copiesIn (.ofNat 3) = 4 := by decide +kernel
  have cause : firstCause (depot.store.deallocationCauses (.ofNat 3) forest.id 3 none) =
      some (.insufficient 2 3) := by decide +kernel
  clear_value depot
  exact ⟨attainable, total, ((movement_outcomes attainable).2.1 _ _ _ _).fails _ |>.mpr cause⟩

/-- A transfer fails with the first of its causes, and succeeds where there is none. Then the
copies have gone from the one deck to the other, all holdings are what they were, and nothing is
written that is not between them. -/
theorem transfer_outcome (attainable : Attainable moments defaultCapacity depot)
    (source destination card : Uuid) (quantity : Int) (zone : Option Zone) :
    let origin := Place.zone source card (depot.store.sourceZone source card zone)
    let causes := depot.store.transferCauses source destination card quantity zone
    Decided depot.store
      (depot.perform moments defaultCapacity (.transfer source destination card quantity zone))
      (∀ cause ∈ causes, cause = none) causes
      fun after =>
        (∃ owner, depot.store.ownerOf? source = some owner ∧
          Store.Relocated depot.store after origin (.zone destination card .main) quantity
            [.binder owner card]) ∧
        (after.rowAt origin = none ↔ depot.store.copiesAt origin = quantity) ∧
        (∀ user card', after.held user card' = depot.store.held user card' ∧
          (depot.store.binder.get? ⟨user, card'⟩ = none →
            after.binder.get? ⟨user, card'⟩ = none)) ∧
        after.Tidy := by
  intro origin causes
  have valid := attainable.valid
  have ends (drawn : Nat) :
      (transfer source destination card quantity zone).Ends (answerNext moments) .storage
        ⟨depot.store, drawn⟩ (fun _ _ => firstCause causes = none)
        (fun failure _ => firstCause causes = some failure) := by
    rw [Store.firstCause_transferCauses valid]
    exact (transfer_ends valid source destination card quantity zone).mono
      (fun _ _ ended => ended.1) fun _ _ failed => failed.1
  apply (decided_of_ends attainable (.transfer source destination card quantity zone) rfl Iff.rfl
    ends (transfer_relocates valid source destination card quantity zone)).mono
  rintro accepted after ⟨⟨owner, owned, moved⟩, tidy⟩
  simp only [causes, Store.transferCauses, List.forall_mem_append, List.forall_mem_cons,
    Store.removalCauses_eq_none_iff, causeIf_eq_none_iff] at accepted
  obtain ⟨⟨⟨-, different, -⟩, -, enough⟩, -⟩ := accepted
  have elsewhere : origin ≠ .zone destination card .main := by simp [origin, different]
  exact ⟨⟨owner, owned, moved⟩, moved.emptied_iff elsewhere enough tidy,
    moved.holdings valid.tidy tidy, tidy⟩

/-- All copies of a sideboard go to the main zone of another deck, and the empty binder they pass
through has no row again. -/
theorem transfer_through_empty_binder :
    let moments : Nat → Moment := fun n => ⟨⟨n, 0⟩, .ofNat n⟩
    let forest : CardDraft := ⟨.ofNat 7, "Forest", none, none, none, none, [default]⟩
    let made := fun (operation : Operation) (depot : Depot) =>
      (depot.perform moments 60 operation).2
    let depot := made (.allocate (.ofNat 3) forest.id 2 .sideboard) <|
      made (.creditBinder (.ofNat 0) forest.id 2) <|
      made (.createDeck ⟨.ofNat 0, "Goblins", "modern", some 2, false, none⟩) <|
      made (.createDeck ⟨.ofNat 0, "Elves", "modern", none, false, none⟩) <|
      made (.registerCard forest) <| made (.createUser ⟨"ada", none⟩) .empty
    let onward := depot.perform moments 60 (.transfer (.ofNat 3) (.ofNat 5) forest.id 2 none)
    Attainable moments 60 depot ∧ onward.1.isOk = true ∧
      onward.2.store.rowAt (.zone (.ofNat 3) forest.id .sideboard) = none ∧
      onward.2.store.copiesAt (.zone (.ofNat 5) forest.id .main) = 2 ∧
      onward.2.store.binder.get? ⟨.ofNat 0, forest.id⟩ = none := by
  intro moments forest made depot onward
  have attainable : Attainable moments 60 depot :=
    .perform (.perform (.perform (.perform (.perform (.perform .empty _) _) _) _) _) _
  have accepted : ∀ cause ∈ depot.store.transferCauses (.ofNat 3) (.ofNat 5) forest.id 2 none,
      cause = none := by decide +kernel
  have origin : depot.store.sourceZone (.ofNat 3) forest.id none = .sideboard := by
    decide +kernel
  have before : depot.store.copiesAt (.zone (.ofNat 3) forest.id .sideboard) = 2 ∧
      depot.store.copiesAt (.zone (.ofNat 5) forest.id .main) = 0 ∧
      (depot.store.binder.get? ⟨.ofNat 0, forest.id⟩).isNone = true := by decide +kernel
  clear_value depot
  obtain ⟨all, empty, absent⟩ := before
  have decided := transfer_outcome attainable (.ofNat 3) (.ofNat 5) forest.id 2 none
  simp only [origin] at decided
  obtain ⟨⟨owner, -, moved⟩, emptied, holdings, -⟩ := decided.effect accepted
  have arrived := moved.copies (.zone (.ofNat 5) forest.id .main)
  rw [empty] at arrived
  refine ⟨attainable, decided.succeeds.mpr accepted, emptied.mpr all, ?_, ?_⟩
  · simpa using arrived
  · exact (holdings _ _).2 (by simpa using absent)

/-- The binder of a deck's owner has room for its copies of each card. -/
theorem not_overfills_iff {store : Store} {deck : Uuid} {row : Deck}
    (found : store.decks.get? deck = some row) :
    ¬ store.Overfills deck ↔
      ∀ card, store.heldByOwner deck card + store.placed deck card .main +
        store.placed deck card .sideboard ≤ Width.greatest 32 := by
  simp only [Store.Overfills, found, Option.some.injEq, ↓existsAndEq, true_and, not_exists,
    Int.not_lt, Store.heldByOwner_of_found found, Store.inDeck, Int.add_assoc]

/-- A deck is deleted just where it exists and the binder of its owner has room for its copies,
and what is told of the copies is what has become of them. -/
theorem deletion_outcome (attainable : Attainable moments defaultCapacity depot) (deck : Uuid) :
    let outcome := depot.perform moments defaultCapacity (.deleteDeck deck)
    (outcome.1.isOk = true ↔
      depot.store.decks.contains deck = true ∧
        ∀ card, depot.store.heldByOwner deck card + depot.store.placed deck card .main +
          depot.store.placed deck card .sideboard ≤ Width.greatest 32) ∧
      (∀ failure, outcome.1 = .error failure →
        outcome.2.store = depot.store ∧
          if depot.store.decks.contains deck = true then ∃ reason, failure = .invalid reason
          else failure = .notFound .deck deck.text) ∧
      ∀ released, outcome.1 = .ok released →
        Store.Returned depot.store outcome.2.store deck released := by
  intro outcome
  have valid := attainable.valid
  have same : outcome = _ := Depot.perform_eq_run attainable.refusal _ _
  rcases ran : ((Operation.deleteDeck deck).task defaultCapacity).run (answerNext moments) .storage
    ⟨depot.store, depot.drawn⟩ with ⟨failure | released, staged⟩
  · rw [ran] at same
    rw [same]
    rcases (releaseDeck_ends valid deck).error ran with ⟨large, overfills⟩ | ⟨rfl, missing, -⟩
    · obtain ⟨row, card, found, beyond⟩ := id overfills
      have deckExists : depot.store.decks.contains deck = true := Table.contains_of_get? found
      have crowded := mt (not_overfills_iff found).mpr (not_not_intro overfills)
      have invalid : ∃ reason, failure = .invalid reason := by
        cases failure with
        | invalid reason => exact ⟨reason, rfl⟩
        | _ => simp [Failure.cannotGrow] at large
      constructor
      · exact ⟨nofun, fun accepted => absurd accepted.2 crowded⟩
      constructor
      · rintro _ ⟨⟩
        exact ⟨rfl, if_pos deckExists ▸ invalid⟩
      · nofun
    · have absent := Table.contains_eq_false_iff.mpr missing
      constructor
      · exact ⟨nofun, fun accepted => absurd accepted.1 (by simp [absent])⟩
      constructor
      · rintro _ ⟨⟩
        exact ⟨rfl, by simp [absent]⟩
      · nofun
  · rw [ran] at same
    rw [same]
    obtain ⟨⟨row, found⟩, -, room⟩ := (releaseDeck_ends valid deck).ok ran
    have returned := (releaseDeck_returns valid deck depot.drawn).ok ran
    constructor
    · exact iff_of_true rfl ⟨Table.contains_of_get? found, (not_overfills_iff found).mp room⟩
    constructor
    · nofun
    · rintro _ ⟨⟩
      exact returned

/-- A deck that has three copies in its sideboard reports them, and the binder has them again. -/
theorem deletion_returns_sideboard :
    let moments : Nat → Moment := fun n => ⟨⟨n, 0⟩, .ofNat n⟩
    let forest : CardDraft := ⟨.ofNat 7, "Forest", none, none, none, none, [default]⟩
    let made := fun (operation : Operation) (depot : Depot) =>
      (depot.perform moments 60 operation).2
    let depot := made (.allocate (.ofNat 3) forest.id 3 .sideboard) <|
      made (.creditBinder (.ofNat 0) forest.id 4) <|
      made (.createDeck ⟨.ofNat 0, "Elves", "modern", none, false, none⟩) <|
      made (.registerCard forest) <| made (.createUser ⟨"ada", none⟩) .empty
    let outcome := depot.perform moments 60 (.deleteDeck (.ofNat 3))
    Attainable moments 60 depot ∧
      ∃ released, outcome.1 = .ok released ∧ (forest.id, 3) ∈ released.returned ∧
        outcome.2.store.held released.deck.owner forest.id =
          depot.store.held released.deck.owner forest.id + 3 := by
  intro moments forest made depot outcome
  have attainable : Attainable moments 60 depot :=
    .perform (.perform (.perform (.perform (.perform .empty _) _) _) _) _
  have deleted : outcome.1.isOk = true := by decide +kernel
  have placed : depot.store.entries.contains ⟨.ofNat 3, forest.id, .sideboard⟩ = true ∧
      3 = depot.store.placed (.ofNat 3) forest.id .main +
        depot.store.placed (.ofNat 3) forest.id .sideboard := by decide +kernel
  clear_value depot
  have returns := (deletion_outcome attainable (.ofNat 3)).2.2
  cases ended : outcome.1 with
  | error failure => simp [ended, Except.isOk, Except.toBool] at deleted
  | ok released =>
      have returned := returns released ended
      have reported := (returned.reported forest.id 3).mpr ⟨⟨.sideboard, placed.1⟩, placed.2⟩
      exact ⟨attainable, released, rfl, reported, returned.credited _ _ reported⟩

end Inventory

end CardInventory
