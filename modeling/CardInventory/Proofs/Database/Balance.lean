import CardInventory.Proofs.Database.Book
import CardInventory.Proofs.Database.Quiet
import CardInventory.Proofs.Database.Unit
import CardInventory.Proofs.Memory.Schema

/-!
# Double entry on the wire

Whatever a server replies, copies are written twice over: what a movement takes from
one place it puts into another, and a deck that is deleted is credited entry by entry.
The changes follow from how each parameter is computed from the last locking read, so
that it does not matter whether two reads of one row agree.
-/

namespace CardInventory.Database

open Memory Storage Ledger Inventory Contract

/-- Quantities are covered, and entries are swept only where that is expected. -/
def bookkeeping (sweeping : Bool) : Contract where
  permits before statement :=
    Covered before statement ∧ (statement.sweeps = true → sweeping = true)
  assumes := AnswersKey

variable {sweeping : Bool} {trace : Trace} {statement : Statement} {place : Place}
  {quantity held : Int}

section Permits

variable (still : statement.sweeps = false)

include still

theorem permits_lock (locks : statement.access? = some (place, .lock)) :
    (bookkeeping sweeping).permits trace statement := by
  constructor
  · simp [Covered, locks]
  · simp [still]

theorem permits_add (adds : statement.access? = some (place, .add quantity))
    (positive : 1 ≤ quantity) (locked : lastLocked? place trace = some held)
    (fits : quantityFits (held + quantity) = true) :
    (bookkeeping sweeping).permits trace statement := by
  constructor
  · rw [Covered, adds]
    exact ⟨positive, held, locked, (quantityFits_iff.mp fits).2⟩
  · simp [still]

theorem permits_set (sets : statement.access? = some (place, .set quantity))
    (positive : 1 ≤ quantity) (locked : lastLocked? place trace = some held) :
    (bookkeeping sweeping).permits trace statement := by
  constructor
  · rw [Covered, sets]
    exact ⟨positive, held, locked⟩
  · simp [still]

theorem permits_remove (removes : statement.access? = some (place, .remove))
    (locked : lastLocked? place trace = some held) :
    (bookkeeping sweeping).permits trace statement := by
  constructor
  · rw [Covered, removes]
    exact ⟨held, locked⟩
  · simp [still]

theorem permits_of_no_access (none : statement.access? = none) :
    (bookkeeping sweeping).permits trace statement := by
  constructor
  · simp [Covered, none]
  · simp [still]

end Permits

theorem bookkeeping_lenient (sweeping : Bool) : (bookkeeping sweeping).Lenient := by
  intro trace statement quiet
  exact permits_of_no_access (sweeps_of_quiet quiet) (Statement.access?_of_quiet quiet)

theorem lastLocked?_binder {user card : Uuid} {outcome : Outcome} {entry : Option BinderEntry}
    (readable : outcome.first? Row.binderEntry = .ok entry) :
    lastLocked? (.binder ⟨user, card⟩)
        (trace ++ [⟨.lockBinderEntry user card, .accepted outcome⟩]) =
      some (entry.elim 0 BinderEntry.quantity) := by
  rw [lastLocked?_append_lock rfl, Place.quantity, readable]

theorem lastLocked?_zone {deck card : Uuid} {zone : Zone} {outcome : Outcome}
    {entry : Option DeckEntry} (readable : outcome.first? Row.deckEntry = .ok entry) :
    lastLocked? (.zone ⟨deck, card, zone⟩)
        (trace ++ [⟨.lockDeckEntry deck card zone, .accepted outcome⟩]) =
      some (entry.elim 0 DeckEntry.quantity) := by
  rw [lastLocked?_append_lock rfl, Place.quantity, readable]

/-! ## Binders -/

theorem credit_keeps (user card : Uuid) (quantity : Int) :
    (bookkeeping sweeping).Keeps (credit user card quantity) trace fun _ after =>
      changes after = changes trace ++ [⟨.binder ⟨user, card⟩, quantity⟩] ∧
        writes after = writes trace ++ [.addToBinder user card quantity] := by
  rw [credit, keeps_bind, keeps_ensurePositive]
  intro positive
  apply keeps_checked (bookkeeping_lenient sweeping) rfl
  intro first quietFirst
  apply keeps_checked (bookkeeping_lenient sweeping) rfl
  intro second quietSecond
  rw [keeps_bind]
  apply keeps_ask (fun _ => rfl) (permits_lock rfl rfl)
  intro outcome entry _ readable
  rw [keeps_bind, keeps_ensure]
  intro fits
  apply keeps_ask (fun _ => rfl) (permits_add rfl rfl positive (lastLocked?_binder readable) fits)
  intro outcome' added _ _
  rw [changes_append_add _ rfl, changes_append_lock rfl, changes_append_quiet quietSecond,
    changes_append_quiet quietFirst, writes_append_of_writes _ rfl, writes_append_of_not_writes rfl,
    writes_append_quiet quietSecond, writes_append_quiet quietFirst]
  exact ⟨rfl, rfl⟩

theorem debit_keeps (user card : Uuid) (quantity : Int) :
    (bookkeeping sweeping).Keeps (debit user card quantity) trace fun _ after =>
      changes after = changes trace ++ [⟨.binder ⟨user, card⟩, -quantity⟩] := by
  rw [debit, keeps_bind, keeps_ensurePositive]
  intro positive
  rw [keeps_bind]
  apply keeps_ask (fun _ => rfl) (permits_lock rfl rfl)
  intro outcome entry? _ readable
  rw [keeps_bind, keeps_found]
  rintro entry rfl
  have locked : lastLocked? (.binder ⟨user, card⟩)
      (trace ++ [⟨.lockBinderEntry user card, .accepted outcome⟩]) = some entry.quantity :=
    lastLocked?_binder readable
  rw [keeps_bind, keeps_ensure, decide_eq_true_eq]
  intro enough
  -- An entry that is emptied is deleted, any other is set to what is left of the quantity that was
  -- locked. Either way it changes by the quantity, whatever it really was.
  split
  · rename_i all
    rw [keeps_bind]
    apply keeps_ask (exchange_deleteFromBinder · user card) (permits_remove rfl rfl locked)
    intro outcome' removed _ _
    rw [keeps_pure, changes_append_remove _ rfl locked, changes_append_lock rfl, all]
  · rename_i less
    have left : entry.quantity - quantity - entry.quantity = -quantity := by omega
    rw [keeps_bind]
    apply keeps_ask (fun _ => rfl) (permits_set rfl rfl (by omega) locked)
    intro outcome' rest _ _
    rw [keeps_pure, changes_append_set _ rfl locked, changes_append_lock rfl, left]

theorem quantityOf_keeps (user card : Uuid) :
    (bookkeeping sweeping).Keeps (quantityOf user card) trace fun _ after =>
      changes after = changes trace := by
  rw [quantityOf, keeps_bind]
  apply keeps_ask (fun _ => rfl) (permits_lock rfl rfl)
  intro outcome entry _ _
  exact changes_append_lock rfl

/-! ## Decks -/

/-- A deck that is locked has been replied under its identifier. -/
theorem lockDeck_keeps (deck : Uuid) :
    (bookkeeping sweeping).Keeps (lockDeck deck) trace fun row after =>
      ∃ outcome rows, after = trace ++ [⟨.lockDecks [deck], .accepted outcome⟩] ∧
        outcome.all Row.deck = .ok rows ∧ rowOf? Deck.id deck rows = some row := by
  rw [lockDeck, keeps_bind]
  apply keeps_ask (fun _ => rfl) (permits_of_no_access rfl rfl)
  intro outcome rows _ readable
  rw [keeps_found]
  intro row present
  exact ⟨outcome, rows, rfl, readable, present⟩

theorem ensureCapacity_keeps (deck : Deck) (quantity : Int) :
    (bookkeeping sweeping).Keeps (ensureCapacity deck quantity) trace fun _ after =>
      changes after = changes trace := by
  rw [ensureCapacity, keeps_bind]
  apply keeps_quiet (bookkeeping_lenient sweeping) rfl
  intro total rest quietRest
  rw [keeps_ofExcept]
  intro _ _
  exact changes_append_quiet quietRest

theorem addToZone_keeps (deck card : Uuid) (quantity : Int) (zone : Zone) :
    (bookkeeping sweeping).Keeps (addToZone deck card quantity zone) trace fun _ after =>
      changes after = changes trace ++ [⟨.zone ⟨deck, card, zone⟩, quantity⟩] := by
  rw [addToZone, keeps_bind, keeps_ensurePositive]
  intro positive
  apply keeps_checked (bookkeeping_lenient sweeping) rfl
  intro first quietFirst
  apply keeps_checked (bookkeeping_lenient sweeping) rfl
  intro second quietSecond
  rw [keeps_bind]
  apply keeps_ask (fun _ => rfl) (permits_lock rfl rfl)
  intro outcome entry _ readable
  rw [keeps_bind, keeps_ensure]
  intro fits
  apply keeps_ask (fun _ => rfl) (permits_add rfl rfl positive (lastLocked?_zone readable) fits)
  intro outcome' added _ _
  rw [changes_append_add _ rfl, changes_append_lock rfl, changes_append_quiet quietSecond,
    changes_append_quiet quietFirst]

/-- The entry that is found was locked last, under its own zone. -/
theorem firstEntry_keeps (deck card : Uuid) (zones : List Zone) :
    (bookkeeping sweeping).Keeps (firstEntry deck card zones) trace fun entry after =>
      changes after = changes trace ∧
        lastLocked? (.zone ⟨deck, card, entry.zone⟩) after = some entry.quantity ∧
        entry.zone ∈ zones := by
  induction zones generalizing trace with
  | nil => exact (keeps_fail _).mpr trivial
  | cons zone rest ih =>
      rw [firstEntry, keeps_bind]
      apply keeps_ask (fun _ => rfl) (permits_lock rfl rfl)
      intro outcome entry? keyed readable
      cases entry? with
      | some entry =>
          have own : entry.zone = zone := (key_of_deckEntry keyed readable).2.2
          rw [keeps_pure, own]
          exact ⟨changes_append_lock rfl, lastLocked?_zone readable, List.mem_cons_self⟩
      | none =>
          apply ih.mono
          rintro entry after ⟨same, last, member⟩
          rw [changes_append_lock rfl] at same
          exact ⟨same, last, List.mem_cons_of_mem zone member⟩

theorem removeFromZone_keeps (deck card : Uuid) (quantity : Int) (zone : Option Zone) :
    (bookkeeping sweeping).Keeps (removeFromZone deck card quantity zone) trace fun _ after =>
      ∃ zone' ∈ removalZones zone,
        changes after = changes trace ++ [⟨.zone ⟨deck, card, zone'⟩, -quantity⟩] := by
  rw [removeFromZone, keeps_bind, keeps_ensurePositive]
  intro positive
  rw [keeps_bind]
  apply (firstEntry_keeps deck card _).mono
  rintro entry after ⟨same, locked, member⟩
  rw [keeps_bind, keeps_ensure, decide_eq_true_eq]
  intro enough
  split
  · rename_i all
    rw [keeps_bind]
    apply keeps_ask (exchange_deleteFromDeck · deck card entry.zone) (permits_remove rfl rfl locked)
    intro outcome removed _ _
    rw [keeps_pure, changes_append_remove _ rfl locked, same, all]
    exact ⟨entry.zone, member, rfl⟩
  · rename_i less
    have left : entry.quantity - quantity - entry.quantity = -quantity := by omega
    rw [keeps_bind]
    apply keeps_ask (fun _ => rfl) (permits_set rfl rfl (by omega) locked)
    intro outcome rest _ _
    rw [keeps_pure, changes_append_set _ rfl locked, same, left]
    exact ⟨entry.zone, member, rfl⟩

end CardInventory.Database
