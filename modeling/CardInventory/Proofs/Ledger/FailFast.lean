import CardInventory.Proofs.Ledger.Release
import CardInventory.Proofs.Memory.Limits

/-!
# Calls that fail fast

The calls that move copies check everything before they change anything. Only the
width of a number is found out late, by the second half of a movement; a limit of
the deck that is to grow makes even this impossible.
-/

namespace CardInventory

open Memory Storage

namespace Ledger

/-- A call that moves copies within a unit of work. -/
inductive Call where
  | credit (user card : Uuid) (quantity : Int)
  | debit (user card : Uuid) (quantity : Int)
  | addToZone (deck card : Uuid) (quantity : Int) (zone : Zone)
  | removeFromZone (deck card : Uuid) (quantity : Int) (zone : Option Zone)
  | allocate (deck card : Uuid) (quantity : Int) (zone : Zone)
  | deallocate (deck card : Uuid) (quantity : Int) (zone : Option Zone)
  | transfer (source destination card : Uuid) (quantity : Int) (zone : Option Zone)
  | moveZone (deck card : Uuid) (quantity : Int) (source target : Zone)
  | releaseDeck (deck : Uuid)

namespace Call

/-- What a call results in. -/
@[reducible]
def Result : Call → Type
  | credit _ _ _ => BinderEntry
  | debit _ _ _ => Option BinderEntry
  | addToZone _ _ _ _ => DeckEntry
  | removeFromZone _ _ _ _ => Removal
  | allocate _ _ _ _ => DeckEntry
  | deallocate _ _ _ _ => Removal
  | transfer _ _ _ _ _ => TransferOutcome
  | moveZone _ _ _ _ _ => ZoneMove
  | releaseDeck _ => ReleasedDeck

/-- The rule of a call. -/
def rule : (call : Call) → Ledger call.Result
  | credit user card quantity => Ledger.credit user card quantity
  | debit user card quantity => Ledger.debit user card quantity
  | addToZone deck card quantity zone => Ledger.addToZone deck card quantity zone
  | removeFromZone deck card quantity zone => Ledger.removeFromZone deck card quantity zone
  | allocate deck card quantity zone => Ledger.allocate deck card quantity zone
  | deallocate deck card quantity zone => Ledger.deallocate deck card quantity zone
  | transfer source destination card quantity zone =>
      Ledger.transfer source destination card quantity zone
  | moveZone deck card quantity source target => Ledger.moveZone deck card quantity source target
  | releaseDeck deck => Ledger.releaseDeck deck

/-- Whether a call only adds copies to one row. -/
def adds : Call → Bool
  | credit _ _ _ => true
  | addToZone _ _ _ _ => true
  | _ => false

/-- The deck whose capacity covers everything a call adds, if there is one. -/
def coveredBy? : Call → Option Uuid
  | allocate deck _ _ _ => some deck
  | moveZone deck _ _ _ _ => some deck
  | _ => none

end Call

variable {moments : Nat → Moment} {staged after : Staged} {failure : Failure}

/-- An allocation to a deck with a limit, and a move between its zones, find every number
small enough. -/
theorem not_large_of_covered (valid : staged.store.Valid) (limits : staged.store.WithinLimits)
    {call : Call} (failed : call.rule.run (answerNext moments) .storage staged =
      (.error failure, after)) {deck : Uuid} {row : Deck} {limit : Int}
    (covered : call.coveredBy? = some deck) (found : staged.store.decks.get? deck = some row)
    (limited : row.capacity = some limit) (narrow : limit ≤ Width.greatest 32) :
    failure.cannotGrow = false := by
  refine Bool.eq_false_iff.mpr fun large => ?_
  cases call with
  | allocate deck' card quantity zone =>
      obtain rfl : deck' = deck := Option.some.inj covered
      obtain ⟨refused, -⟩ := (allocate_ends valid deck' card quantity zone).error failed
      rcases Store.allocationRefusal_cases staged.store deck' card quantity zone with
        ⟨other, early, small, -⟩ | ⟨_, _, -, -, -, beyond⟩ | ⟨row', found', fits, last⟩
      · obtain rfl := Option.some.inj (early.symm.trans refused)
        simp [small] at large
      · obtain rfl := Option.some.inj (beyond.symm.trans refused)
        cases large
      · obtain rfl : row = row' := Option.some.inj (found.symm.trans found')
        have tooLarge := Store.additionRefusal_large (last.symm.trans refused) large
        have room := fits limit limited
        have bound := Store.placed_le_copiesIn valid deck' card zone
        omega
  | moveZone deck' card quantity source target =>
      obtain rfl : deck' = deck := Option.some.inj covered
      obtain ⟨refused, -⟩ := (moveZone_ends valid deck' card quantity source target).error failed
      obtain ⟨different, enough, tooLarge⟩ := Store.zoneMoveRefusal_large valid refused large
      have bound := Store.placed_add_le_copiesIn valid deck' card different
      have fits := limits found limited
      omega
  | _ => simp [Call.coveredBy?] at covered

/-- A call that fails leaves the staged tables as they were, unless it has found out late
that a number of copies cannot grow; a call that only adds copies never does so late, and
one that is covered by the limit of a deck, a number of 32 bits itself, not at all. -/
theorem failed_call_keeps_staged (valid : staged.store.Valid)
    (limits : staged.store.WithinLimits) (call : Call)
    (failed : call.rule.run (answerNext moments) .storage staged = (.error failure, after)) :
    (failure.cannotGrow = false ∨ call.adds = true → after.store = staged.store) ∧
      ∀ deck row limit, call.coveredBy? = some deck →
        staged.store.decks.get? deck = some row → row.capacity = some limit →
          limit ≤ Width.greatest 32 → failure.cannotGrow = false := by
  constructor
  · intro early
    cases call with
    | credit user card quantity =>
        exact ((credit_ends valid user card quantity).error failed).2
    | debit user card quantity =>
        exact ((debit_ends valid user card quantity).error failed).2
    | addToZone deck card quantity zone =>
        exact ((addToZone_ends valid deck card quantity zone).error failed).2
    | removeFromZone deck card quantity zone =>
        exact ((removeFromZone_ends valid deck card quantity zone).error failed).2
    | allocate deck card quantity zone =>
        have small := early.resolve_right (by simp [Call.adds])
        exact ((allocate_ends valid deck card quantity zone).error failed).2 small
    | deallocate deck card quantity zone =>
        have small := early.resolve_right (by simp [Call.adds])
        exact ((deallocate_ends valid deck card quantity zone).error failed).2 small
    | transfer source destination card quantity zone =>
        have small := early.resolve_right (by simp [Call.adds])
        exact ((transfer_ends valid source destination card quantity zone).error failed).2 small
    | moveZone deck card quantity source target =>
        have small := early.resolve_right (by simp [Call.adds])
        exact ((moveZone_ends valid deck card quantity source target).error failed).2 small
    | releaseDeck deck =>
        have small := early.resolve_right (by simp [Call.adds])
        rcases (releaseDeck_ends valid deck).error failed with ⟨large, -⟩ | ⟨-, -, same⟩
        · simp [large] at small
        · exact same
  · intro deck row limit covered found limited narrow
    exact not_large_of_covered valid limits failed covered found limited narrow

/-- A deck of at most three copies holds two, and no further two. -/
theorem allocation_beyond_limit_keeps_staged :
    let ada : User := ⟨⟨"ada", none⟩, .ofNat 1, ⟨0, 0⟩⟩
    let forest : Card := ⟨⟨.ofNat 7, "Forest", none, none, none, none, []⟩, ⟨0, 0⟩⟩
    let elves : Deck := ⟨⟨ada.id, "Elves", "modern", some 3, none⟩, .ofNat 2, ⟨0, 0⟩, ⟨0, 0⟩⟩
    let tables : Store :=
      { Store.empty with
        users := Table.insert ∅ ada.id ada
        cards := Table.insert ∅ forest.id forest
        decks := Table.insert ∅ elves.id elves }
    let store := (tables.hold ada.id forest.id 5 ⟨0, 0⟩).place elves.id forest.id .main 2 ⟨0, 0⟩
    ∃ after, (Call.allocate elves.id forest.id 2 .sideboard).rule.run
        (answerNext fun n => ⟨⟨n, 0⟩, .ofNat n⟩) .storage ⟨store, 0⟩ =
          (.error (.overCapacity 2 3 2), after) ∧
      after.store = store ∧ (Failure.overCapacity 2 3 2).cannotGrow = false := by
  intro ada forest elves tables store
  have valid : store.Valid :=
    ((((Store.valid_empty.insertUser ⟨rfl, by decide⟩ (Table.forall_empty _)).insertCard
      rfl).insertDeck ⟨rfl, by decide, by decide, by decide, fun limit given => by
        cases given
        decide⟩).hold (by decide) (by decide) (by decide) (by decide) ⟨0, 0⟩).place
      (by decide) (by decide) (by decide) (by decide) ⟨0, 0⟩
  have limits : store.WithinLimits := by decide
  have refusal : store.allocationRefusal elves.id forest.id 2 .sideboard =
      some (.overCapacity 2 3 2) := by decide
  have found : store.decks.get? elves.id = some elves := rfl
  clear_value store
  rcases failed : (Call.allocate elves.id forest.id 2 .sideboard).rule.run
      (answerNext fun n => ⟨⟨n, 0⟩, .ofNat n⟩) .storage ⟨store, 0⟩ with ⟨failure | entry, after⟩
  · have refused := ((allocate_ends valid elves.id forest.id 2 .sideboard).error failed).1
    obtain rfl := Option.some.inj (refusal.symm.trans refused)
    obtain ⟨kept, covered⟩ := failed_call_keeps_staged valid limits _ failed
    exact ⟨after, failed, kept (.inl rfl), covered elves.id elves 3 rfl found rfl (by decide)⟩
  · have accepted := ((allocate_ends valid elves.id forest.id 2 .sideboard).ok failed).1
    exact absurd (refusal.symm.trans accepted) (by simp)

end Ledger

end CardInventory
