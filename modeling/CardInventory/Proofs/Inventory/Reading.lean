import CardInventory.Proofs.Inventory.Arguments
import CardInventory.Proofs.Ledger.Binder

/-!
# Operations that only read

An operation that only reads leaves the tables as they are. All that can keep it
from its result is a record it does not find.
-/

namespace CardInventory.Inventory

open Memory Storage Ledger

variable {moments : Nat → Moment} {store : Store} {drawn : Nat}

theorem ends_ensureUser (id : Uuid) {good : Unit → Staged → Prop}
    {bad : Failure → Staged → Prop} :
    (ensureUser id).Ends (answerNext moments) .storage ⟨store, drawn⟩ good bad ↔
      if store.users.contains id = true then good () ⟨store, drawn + 1⟩
      else bad (.notFound .user id.text) ⟨store, drawn + 1⟩ := by
  simp only [ensureUser, Procedure.ends_bind, ends_ask (.userExists id), Store.answer, ends_ensure]

/-- A deck list lacks nothing but a card. -/
theorem notFound_of_mapM_listLine {cards : List Card} {entries : List DeckEntry}
    {failure : Failure} (failed : entries.mapM (listLine cards) = .error failure) :
    ∃ subject key, failure = .notFound subject key := by
  induction entries with
  | nil => simp [pure, Except.pure] at failed
  | cons entry rest ih =>
      simp only [List.mapM_cons, bind, Except.bind] at failed
      split at failed
      · rename_i fault first
        obtain rfl : fault = failure := Except.error.inj failed
        unfold listLine at first
        split at first
        · simp at first
        · exact ⟨_, _, (Except.error.inj first).symm⟩
      · split at failed
        · rename_i fault later
          obtain rfl : fault = failure := Except.error.inj failed
          exact ih later
        · simp [pure, Except.pure] at failed

/-- A rule that leaves the tables as they are, and fails only where it misses a record. -/
def Reads {α : Type} (moments : Nat → Moment) (store : Store) (rule : Ledger α) : Prop :=
  ∀ drawn, rule.Ends (answerNext moments) .storage ⟨store, drawn⟩
    (fun _ after => after.store = store)
    (fun failure after => (∃ subject key, failure = .notFound subject key) ∧
      after.store = store)

section Reads

variable {α β : Type}

theorem Reads.pure (value : α) : Reads moments store (pure value) :=
  fun _ => (Procedure.ends_pure value).mpr rfl

theorem Reads.bind {first : Ledger α} {second : α → Ledger β} (reads : Reads moments store first)
    (reads' : ∀ value, Reads moments store (second value)) :
    Reads moments store (first >>= second) := by
  intro drawn
  rw [Procedure.ends_bind]
  refine (reads drawn).mono ?_ fun _ _ missed => missed
  rintro value ⟨_, drawn⟩ rfl
  exact reads' value drawn

/-- A request reads the tables if it is answered from them and leaves them. -/
theorem Reads.ask {request : Request}
    (answers : ∀ moment, ∃ reply, store.answer moment request = (.ok reply, store)) :
    Reads moments store (Ledger.ask request) := by
  intro drawn
  obtain ⟨reply, answered⟩ := answers (moments drawn)
  rw [ends_ask, answered]

theorem Reads.ensure (condition : Bool) (subject : Subject) (key : String) :
    Reads moments store (Ledger.ensure condition (.notFound subject key)) := by
  intro drawn
  rw [ends_ensure]
  split
  · rfl
  · exact ⟨⟨subject, key, rfl⟩, rfl⟩

theorem Reads.found (value : Option α) (subject : Subject) (key : String) :
    Reads moments store (Ledger.found value (.notFound subject key)) := by
  intro drawn
  rw [ends_found]
  cases value with
  | some value => rfl
  | none => exact ⟨⟨subject, key, rfl⟩, rfl⟩

theorem Reads.ofExcept {outcome : Except Failure α}
    (missed : ∀ ⦃failure⦄, outcome = .error failure →
      ∃ subject key, failure = .notFound subject key) :
    Reads moments store (Procedure.ofExcept outcome) := by
  intro drawn
  rw [Procedure.ends_ofExcept]
  cases outcome with
  | ok value => rfl
  | error failure => exact ⟨missed rfl, rfl⟩

theorem reads_ensureUser (id : Uuid) : Reads moments store (ensureUser id) :=
  (Reads.ask fun _ => ⟨_, rfl⟩).bind fun known => .ensure known _ _

theorem reads_requireDeck (id : Uuid) : Reads moments store (requireDeck id) :=
  (Reads.ask fun _ => ⟨_, rfl⟩).bind fun row => .found row _ _

theorem reads_entriesOfDeck (id : Uuid) :
    Reads moments store (Ledger.ask (.entriesOfDeck id)) :=
  .ask fun _ => ⟨_, rfl⟩

theorem reads_readTotals (id : Uuid) : Reads moments store (readTotals id) :=
  (reads_requireDeck id).bind fun _ => (reads_entriesOfDeck id).bind fun _ => .pure _

theorem reads_readDeckList (id : Uuid) : Reads moments store (readDeckList id) := by
  refine (reads_requireDeck id).bind fun _ => (reads_entriesOfDeck id).bind fun entries =>
    (Reads.ask fun _ => ⟨_, rfl⟩).bind fun cards => Reads.bind ?_ fun lines => .pure _
  exact .ofExcept fun failure failed => notFound_of_mapM_listLine failed

end Reads

/-- An operation that changes nothing only reads the tables. -/
theorem reads_of_not_mutates (defaultCapacity : Int) {operation : Operation}
    (reading : operation.mutates = false) :
    Reads moments store (operation.task defaultCapacity) := by
  unfold Operation.task
  cases operation with
  | getUser id => exact (Reads.ask fun _ => ⟨_, rfl⟩).bind fun user => .found user _ _
  | searchCards search => exact .ask fun _ => ⟨_, rfl⟩
  | getCard id => exact (Reads.ask fun _ => ⟨_, rfl⟩).bind fun card => .found card _ _
  | binderQuantity user card => exact (Reads.ask fun _ => ⟨_, rfl⟩).bind fun _ => .pure _
  | listBinder user search =>
      exact (reads_ensureUser user).bind fun _ => .ask fun _ => ⟨_, rfl⟩
  | getDeck id =>
      exact (reads_requireDeck id).bind fun _ => (reads_entriesOfDeck id).bind fun _ => .pure _
  | listUserDecks owner =>
      exact (reads_ensureUser owner).bind fun _ => .ask fun _ => ⟨_, rfl⟩
  | deckTotals id => exact reads_readTotals id
  | exportDeck id => exact reads_readDeckList id
  | _ => simp [Operation.mutates] at reading

end CardInventory.Inventory
