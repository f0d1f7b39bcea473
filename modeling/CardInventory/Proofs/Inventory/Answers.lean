import CardInventory.Proofs.Inventory.Attainable

/-!
# What reading operations result in

A reading operation that finds the record it is about always has a result, which its
tables give: a listing, a page of one, a number of copies, or a deck with its entries.
-/

namespace CardInventory.Memory.Depot

open Ledger Inventory Storage

variable {moments : Nat → Moment} {defaultCapacity : Int} {depot : Depot}

/-- A task that can end in no other way than with one value has it for its result. -/
theorem perform_eq_ok_of_ends (free : depot.refusal = none) {operation : Operation}
    {result : operation.Result}
    (ends : (operation.task defaultCapacity).Ends (answerNext moments) .storage
      ⟨depot.store, depot.drawn⟩ (fun value _ => value = result) fun _ _ => False) :
    (depot.perform moments defaultCapacity operation).1 = .ok result := by
  rw [perform_fst free]
  rcases outcome : (operation.task defaultCapacity).run (answerNext moments) .storage
      ⟨depot.store, depot.drawn⟩ with ⟨failure | value, staged⟩
  · exact (ends.error outcome).elim
  · exact (congrArg Prod.fst outcome).trans (congrArg Except.ok (ends.ok outcome))

section Results

variable (free : depot.refusal = none)

include free

theorem runUnit_totalInDeck (deck : Uuid) :
    (depot.runUnit moments false (ask (.totalInDeck deck))).1 =
      .ok (depot.store.deckTotal deck) := by
  rcases depot with ⟨store, drawn, _ | fault⟩
  · rfl
  · cases free

theorem perform_binderQuantity (user card : Uuid) :
    (depot.perform moments defaultCapacity (.binderQuantity user card)).1 =
      .ok (depot.store.held user card) := by
  rw [perform_fst free]
  rfl

section Users

variable {user : Uuid} (known : depot.store.users.contains user = true)

include known

theorem perform_listUserDecks :
    (depot.perform moments defaultCapacity (.listUserDecks user)).1 =
      .ok (depot.store.summaries user) := by
  apply perform_eq_ok_of_ends free
  simp only [Operation.task, Operation.rule, Procedure.ends_bind, ends_ensureUser,
    ends_ask (.decksOfUser user), Store.answer, known, if_true]

end Users

section Decks

variable {deck : Uuid} {row : Deck} (found : depot.store.decks.get? deck = some row)

include found

theorem perform_getDeck :
    (depot.perform moments defaultCapacity (.getDeck deck)).1 =
      .ok ⟨row, depot.store.entriesOf deck⟩ := by
  apply perform_eq_ok_of_ends free
  simp only [Operation.task, Operation.rule, requireDeck, Procedure.ends_bind,
    ends_ask (.findDeck deck), ends_ask (.entriesOfDeck deck), Store.answer, ends_found, found,
    Procedure.ends_pure]

theorem perform_deckTotals :
    (depot.perform moments defaultCapacity (.deckTotals deck)).1 =
      .ok ⟨deck, zoneTotal .main (depot.store.entriesOf deck),
        zoneTotal .sideboard (depot.store.entriesOf deck),
        zoneTotal .main (depot.store.entriesOf deck) +
          zoneTotal .sideboard (depot.store.entriesOf deck), row.capacity⟩ := by
  apply perform_eq_ok_of_ends free
  simp only [Operation.task, Operation.rule, readTotals, totalsOf, requireDeck, Procedure.ends_bind,
    ends_ask (.findDeck deck), ends_ask (.entriesOfDeck deck), Store.answer, ends_found, found,
    Procedure.ends_pure]

end Decks

end Results

end CardInventory.Memory.Depot
