import CardInventory.Proofs.Database.Balance
import CardInventory.Proofs.Database.Reply

/-!
# Double entry in a unit of work

The changes of a movement come to nothing in total, a credit and a debit change one
entry of a binder, and the copies of a deck that is deleted are all credited before
its entries go. This is what a committed unit has written over any connection, and no
unit, committed or not, writes a quantity that is not covered.
-/

namespace CardInventory.Database

open Memory Storage Ledger Inventory Contract

/-- Whether a place is an entry of a binder. -/
def Place.isBinder : Place → Bool
  | .binder _ => true
  | .zone _ => false

/-- The sum of some changes. -/
def total (changes : List Change) : Int :=
  totalOf (changes.map Change.amount)

/-- The changes of binders among some changes. -/
def ofBinders (changes : List Change) : List Change :=
  changes.filter fun change => change.place.isBinder

/-- A deck was released: once the deck was locked and its entries were listed, each entry was
credited to the owner of the deck, and then the entries and the deck were deleted. -/
def Released (deck : Uuid) (trace : Trace) : Prop :=
  ∃ (locked listed : Outcome) (rows : List Deck) (row : Deck) (entries order : List DeckEntry)
      (rest : Trace),
    trace = ⟨.lockDecks [deck], .accepted locked⟩ ::
      ⟨.entriesOfDeck deck, .accepted listed⟩ :: rest ∧
    locked.all Row.deck = .ok rows ∧ rowOf? Deck.id deck rows = some row ∧
    listed.all Row.deckEntry = .ok entries ∧ order.Perm entries ∧
    writes rest = (order.map fun entry => .addToBinder row.owner entry.card entry.quantity) ++
      [.clearDeck deck, .deleteDeck deck]

/-- What the changes of a unit of work amount to when its operation has succeeded. -/
def Balanced (operation : Operation) (trace : Trace) : Prop :=
  match operation with
  | .creditBinder user card quantity => changes trace = [⟨.binder ⟨user, card⟩, quantity⟩]
  | .debitBinder user card quantity => changes trace = [⟨.binder ⟨user, card⟩, -quantity⟩]
  | .allocate _ _ quantity _ =>
      total (changes trace) = 0 ∧ total (ofBinders (changes trace)) = -quantity
  | .deallocate _ _ quantity _ =>
      total (changes trace) = 0 ∧ total (ofBinders (changes trace)) = quantity
  | .transfer _ _ _ _ _ => total (changes trace) = 0 ∧ total (ofBinders (changes trace)) = 0
  | .moveZone _ _ _ _ _ => total (changes trace) = 0 ∧ total (ofBinders (changes trace)) = 0
  | .deleteDeck deck => Released deck trace
  | _ => changes trace = []

/-- Only the deletion of a deck deletes all its entries. -/
def sweepsEntries : Operation → Bool
  | .deleteDeck _ => true
  | _ => false

variable {sweeping : Bool} {trace : Trace}

/-! ## Sums of changes -/

@[simp]
theorem total_nil : total [] = 0 :=
  rfl

@[simp]
theorem total_cons (change : Change) (rest : List Change) :
    total (change :: rest) = change.amount + total rest :=
  rfl

@[simp]
theorem ofBinders_nil : ofBinders [] = [] :=
  rfl

@[simp]
theorem ofBinders_binder (key : BinderKey) (amount : Int) (rest : List Change) :
    ofBinders (⟨.binder key, amount⟩ :: rest) = ⟨.binder key, amount⟩ :: ofBinders rest :=
  rfl

@[simp]
theorem ofBinders_zone (key : EntryKey) (amount : Int) (rest : List Change) :
    ofBinders (⟨.zone key, amount⟩ :: rest) = ofBinders rest :=
  rfl

/-! ## Movements -/

theorem allocate_keeps (deck card : Uuid) (quantity : Int) (zone : Zone) :
    (bookkeeping sweeping).Keeps (allocate deck card quantity zone) trace fun _ after =>
      ∃ owner, changes after = changes trace ++
        [⟨.binder ⟨owner, card⟩, -quantity⟩, ⟨.zone ⟨deck, card, zone⟩, quantity⟩] := by
  rw [allocate, keeps_bind, keeps_ensurePositive]
  intro _
  rw [keeps_bind]
  apply (lockDeck_keeps deck).mono
  rintro row _ ⟨outcome, rows, rfl, -, -⟩
  apply keeps_checked (bookkeeping_lenient sweeping) rfl
  intro first quietFirst
  rw [keeps_bind]
  apply (ensureCapacity_keeps row quantity).mono
  intro _ checked sameChecked
  rw [keeps_bind]
  apply (quantityOf_keeps row.owner card).mono
  intro held read sameRead
  rw [keeps_bind, keeps_ensure]
  intro _
  rw [keeps_bind]
  apply (debit_keeps row.owner card quantity).mono
  intro _ taken debited
  apply (addToZone_keeps deck card quantity zone).mono
  intro _ after added
  refine ⟨row.owner, ?_⟩
  rw [added, debited, sameRead, sameChecked, changes_append_quiet quietFirst,
    changes_append_of_no_access rfl, List.append_assoc]
  rfl

theorem deallocate_keeps (deck card : Uuid) (quantity : Int) (zone : Option Zone) :
    (bookkeeping sweeping).Keeps (deallocate deck card quantity zone) trace fun _ after =>
      ∃ zone' owner, changes after = changes trace ++
        [⟨.zone ⟨deck, card, zone'⟩, -quantity⟩, ⟨.binder ⟨owner, card⟩, quantity⟩] := by
  rw [deallocate, keeps_bind, keeps_ensurePositive]
  intro _
  rw [keeps_bind]
  apply (lockDeck_keeps deck).mono
  rintro row _ ⟨outcome, rows, rfl, -, -⟩
  rw [keeps_bind]
  apply (removeFromZone_keeps deck card quantity zone).mono
  rintro removal taken ⟨zone', -, removed⟩
  rw [keeps_bind]
  apply (credit_keeps row.owner card quantity).mono
  rintro _ after ⟨credited, -⟩
  rw [keeps_pure]
  refine ⟨zone', row.owner, ?_⟩
  rw [credited, removed, changes_append_of_no_access rfl, List.append_assoc]
  rfl

theorem transfer_keeps (source destination card : Uuid) (quantity : Int) (zone : Option Zone) :
    (bookkeeping sweeping).Keeps (transfer source destination card quantity zone) trace
      fun _ after =>
        ∃ zone' owner owner', changes after = changes trace ++
          [⟨.zone ⟨source, card, zone'⟩, -quantity⟩, ⟨.binder ⟨owner, card⟩, quantity⟩,
            ⟨.binder ⟨owner', card⟩, -quantity⟩, ⟨.zone ⟨destination, card, .main⟩, quantity⟩] := by
  rw [transfer, keeps_bind, keeps_ensurePositive]
  intro _
  rw [keeps_bind, keeps_ensure]
  intro _
  rw [keeps_bind]
  apply keeps_ask (fun _ => rfl) (permits_of_no_access rfl rfl)
  intro outcome rows _ _
  rw [keeps_bind, keeps_found]
  intro sourceRow _
  rw [keeps_bind, keeps_found]
  intro destinationRow _
  rw [keeps_bind, keeps_ensure]
  intro _
  rw [keeps_bind]
  apply (ensureCapacity_keeps destinationRow quantity).mono
  intro _ checked sameChecked
  rw [keeps_bind]
  apply (deallocate_keeps source card quantity zone).mono
  rintro removal between ⟨zone', owner, returned⟩
  rw [keeps_bind]
  apply (allocate_keeps destination card quantity .main).mono
  rintro entry after ⟨owner', allocated⟩
  rw [keeps_pure]
  refine ⟨zone', owner, owner', ?_⟩
  rw [allocated, returned, sameChecked, changes_append_of_no_access rfl, List.append_assoc]
  rfl

theorem moveZone_keeps (deck card : Uuid) (quantity : Int) (source target : Zone) :
    (bookkeeping sweeping).Keeps (moveZone deck card quantity source target) trace fun _ after =>
      changes after = changes trace ++
        [⟨.zone ⟨deck, card, source⟩, -quantity⟩, ⟨.zone ⟨deck, card, target⟩, quantity⟩] := by
  rw [moveZone, keeps_bind, keeps_ensurePositive]
  intro _
  rw [keeps_bind, keeps_ensure]
  intro _
  rw [keeps_bind]
  apply (lockDeck_keeps deck).mono
  rintro row _ ⟨outcome, rows, rfl, -, -⟩
  rw [keeps_bind]
  apply (removeFromZone_keeps deck card quantity (some source)).mono
  rintro removal taken ⟨zone, member, removed⟩
  obtain rfl : zone = source := List.mem_singleton.mp member
  rw [keeps_bind]
  apply (addToZone_keeps deck card quantity target).mono
  intro entry after added
  rw [keeps_pure, added, removed, changes_append_of_no_access rfl, List.append_assoc]
  rfl

/-! ## Deleted decks -/

/-- Every entry is credited, one after another. -/
theorem creditAll_keeps (owner : Uuid) (entries : List DeckEntry) :
    (bookkeeping sweeping).Keeps (creditAll owner entries) trace fun _ after =>
      writes after = writes trace ++
        entries.map fun entry => .addToBinder owner entry.card entry.quantity := by
  induction entries generalizing trace with
  | nil => exact (List.append_nil _).symm
  | cons entry rest ih =>
      rw [creditAll, keeps_bind]
      apply (credit_keeps owner entry.card entry.quantity).mono
      rintro _ between ⟨-, credited⟩
      apply ih.mono
      intro _ after onward
      rw [onward, credited, List.append_assoc]
      rfl

/-- The deletion of a deck may sweep its entries. -/
theorem permits_sweep {statement : Statement} (none : statement.access? = none) :
    (bookkeeping true).permits trace statement := by
  constructor
  · simp [Covered, none]
  · exact fun _ => rfl

theorem releaseDeck_keeps (deck : Uuid) :
    (bookkeeping true).Keeps (releaseDeck deck) [] fun _ after => Released deck after := by
  rw [releaseDeck, keeps_bind]
  apply (lockDeck_keeps deck).mono
  rintro row _ ⟨locked, rows, rfl, readable, present⟩
  rw [keeps_bind]
  apply keeps_ask (fun _ => rfl) (permits_of_no_access rfl rfl)
  intro listed entries _ readableEntries
  rw [keeps_bind]
  apply (creditAll_keeps row.owner (entries.mergeSort releaseOrder)).continues.mono
  -- The two readings write nothing, so the credits are all that is written after them.
  rintro _ _ ⟨credited, rest, rfl, -⟩
  rw [writes_append, writes_append_of_not_writes rfl, writes_append_of_not_writes rfl,
    List.append_cancel_left_eq] at credited
  rw [keeps_bind]
  apply keeps_ask (fun _ => rfl) (permits_sweep rfl)
  intro cleared _ _ _
  rw [keeps_bind]
  apply keeps_ask (exchange_deleteDeck · deck) (permits_sweep rfl)
  intro deleted _ _ _
  rw [keeps_bind, keeps_ensure]
  intro _
  rw [keeps_pure]
  refine ⟨locked, listed, rows, row, entries, entries.mergeSort releaseOrder,
    rest ++ [⟨.clearDeck deck, .accepted cleared⟩] ++ [⟨.deleteDeck deck, .accepted deleted⟩],
    by simp, readable, present, readableEntries, List.mergeSort_perm entries releaseOrder, ?_⟩
  rw [writes_append_of_writes _ rfl, writes_append_of_writes _ rfl, credited, List.append_assoc]
  rfl

/-! ## Other operations -/

theorem changeDeck_keeps (deck : Uuid) (patch : DeckPatch) :
    (bookkeeping sweeping).Keeps (changeDeck deck patch) trace fun _ after =>
      changes after = changes trace := by
  have updated : ∀ before : Trace, (bookkeeping sweeping).Keeps (ask (.updateDeck deck patch))
      before fun _ after => changes after = changes before := by
    intro before
    apply keeps_ask (fun _ => rfl) (permits_of_no_access rfl rfl)
    intro outcome row _ _
    exact changes_append_of_no_access rfl
  rw [changeDeck, keeps_bind]
  apply (lockDeck_keeps deck).mono
  rintro row _ ⟨outcome, rows, rfl, -, -⟩
  have same : changes (trace ++ [⟨.lockDecks [deck], .accepted outcome⟩]) = changes trace :=
    changes_append_of_no_access rfl
  split
  · rw [keeps_bind]
    apply keeps_quiet (bookkeeping_lenient sweeping) rfl
    intro current rest quietRest
    rw [keeps_bind, keeps_ofExcept]
    intro _ _
    rw [← same, ← changes_append_quiet quietRest]
    exact updated _
  · rw [← same]
    exact updated _

theorem rule_balances {operation : Operation} {defaultCapacity : Int}
    {rule : Ledger operation.Result} (checked : operation.rule defaultCapacity = .ok rule) :
    (bookkeeping (sweepsEntries operation)).Keeps rule [] fun _ after =>
      Balanced operation after := by
  cases operation with
  | creditBinder user card quantity =>
      cases checked
      apply (credit_keeps user card quantity).mono
      rintro _ after ⟨credited, -⟩
      exact credited
  | debitBinder user card quantity =>
      cases checked
      exact debit_keeps user card quantity
  | binderQuantity user card =>
      cases checked
      exact quantityOf_keeps user card
  | updateDeck id patch =>
      obtain ⟨patch', -, checked⟩ := bind_eq_ok_iff.mp checked
      cases checked
      exact changeDeck_keeps id patch'
  | deleteDeck id =>
      cases checked
      exact releaseDeck_keeps id
  | allocate deck card quantity zone =>
      cases checked
      apply (allocate_keeps deck card quantity zone).mono
      rintro _ after ⟨owner, moved⟩
      rw [Balanced, moved, changes_nil, List.nil_append]
      simp only [total_cons, total_nil, ofBinders_binder, ofBinders_zone, ofBinders_nil]
      omega
  | deallocate deck card quantity zone =>
      cases checked
      apply (deallocate_keeps deck card quantity zone).mono
      rintro _ after ⟨zone', owner, moved⟩
      rw [Balanced, moved, changes_nil, List.nil_append]
      simp only [total_cons, total_nil, ofBinders_binder, ofBinders_zone, ofBinders_nil]
      omega
  | transfer source destination card quantity zone =>
      cases checked
      apply (transfer_keeps source destination card quantity zone).mono
      rintro _ after ⟨zone', owner, owner', moved⟩
      rw [Balanced, moved, changes_nil, List.nil_append]
      simp only [total_cons, total_nil, ofBinders_binder, ofBinders_zone, ofBinders_nil]
      omega
  | moveZone deck card quantity source target =>
      cases checked
      apply (moveZone_keeps deck card quantity source target).mono
      intro _ after moved
      rw [Balanced, moved, changes_nil, List.nil_append]
      simp only [total_cons, total_nil, ofBinders_zone, ofBinders_nil, and_true]
      omega
  | _ =>
      apply (quiet_rule rfl checked (bookkeeping_lenient _) []).mono monotone_ofRequest
      rintro _ after ⟨rest, same, quietRest⟩
      change changes after = []
      rw [same, changes_append_quiet quietRest, changes_nil]

/-! ## Units of work -/

/-- Whatever a server replies that answers by key: no unit of work writes a quantity that is not
covered, only the deletion of a deck deletes all its entries, and what a committed unit has
written is balanced. -/
theorem perform_balances {operation : Operation} {connection after : Connection}
    {fresh : Nat → Uuid} {replies : List Reply} {refusal? : Control → Option ServerError}
    {defaultCapacity : Int}
    (performed : ((connection.expecting replies refusal?).perform fresh defaultCapacity
      operation).2 = after)
    (keyed : Keyed after.trace) :
    (∀ before told rest, after.trace = before ++ told :: rest → Covered before told.statement) ∧
      (∀ told ∈ after.trace, told.statement.sweeps = true → sweepsEntries operation = true) ∧
      (after.Committed → Accepted after.trace ∧ Balanced operation after.trace) := by
  have keeps : ∀ rule, operation.rule defaultCapacity = .ok rule →
      (bookkeeping (sweepsEntries operation)).Keeps rule [] fun _ after =>
        Balanced operation after ∧ Continues [] after :=
    fun rule checked => (rule_balances checked).continues
  have held := perform_holds keeps fresh connection replies refusal?
  rw [performed] at held
  have permitted : ∀ before told rest, after.trace = before ++ told :: rest →
      (bookkeeping (sweepsEntries operation)).permits before told.statement := by
    intro before told rest split
    rw [split] at keyed
    exact held.guards before told rest split
      (Keyed.admits (List.forall_mem_append.mp keyed).1 rfl)
  refine ⟨fun before told rest split => (permitted before told rest split).1, ?_, ?_⟩
  · intro told member
    obtain ⟨before, rest, split⟩ := List.append_of_mem member
    exact (permitted before told rest split).2
  · intro committed
    obtain ⟨_, balanced, rest, same, accepted⟩ := held.committed (keyed.admits rfl) committed
    exact ⟨same ▸ accepted, balanced⟩

/-- A server that says of one entry first that it holds five copies and then that it holds nine
has written as many as are left of nine. -/
theorem unsteady_allocation_balances :
    let owner : Uuid := .ofNat 1
    let card : Uuid := .ofNat 7
    let row : Deck := ⟨⟨owner, "Elves", "modern", none, none⟩, .ofNat 3, default, default⟩
    let held (quantity : Int) : Reply :=
      .ok (.rows [.ofBinderEntry ⟨owner, card, quantity, default⟩])
    let replies : List Reply :=
      [.ok (.rows [.ofDeck row]), .ok (.rows [[("exists", .flag true)]]),
        .ok (.rows [[("sum", .integer 0)]]), held 5, held 9, held 6, .ok (.rows [.ofDeck row]),
        .ok (.rows [[("exists", .flag true)]]), .ok (.rows []),
        .ok (.rows [.ofDeckEntry ⟨row.id, card, .main, 3, default⟩])]
    let after := ((Connection.idle.expecting replies fun _ => none).perform .ofNat 60
      (.allocate row.id card 3 .main)).2
    Keyed after.trace ∧ after.Committed ∧ total (changes after.trace) = 0 ∧
      total (ofBinders (changes after.trace)) = -3 := by
  intro owner card row held replies after
  have keyed : Keyed after.trace := by decide +kernel
  have committed : after.Committed := by decide +kernel
  obtain ⟨-, -, balanced⟩ := perform_balances (rfl : _ = after) keyed
  exact ⟨keyed, committed, (balanced committed).2⟩

end CardInventory.Database
