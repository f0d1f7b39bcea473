import CardInventory.Proofs.Database.Locks
import CardInventory.Proofs.Database.Reply
import Mathlib.Data.List.Induction
import Mathlib.Logic.Relation

/-!
# Freedom from deadlock

What the order of locks comes to over a whole unit of work, and over any number of units
that run at once: decks before binders, both in ascending order, and entries of decks
only under the lock of their deck. So the row a call waits for always comes after all
rows it holds, and no calls wait for each other in a circle.
-/

namespace CardInventory.Database

open Memory Storage Ledger Inventory Contract

/-- The identifiers that each statement locks decks by. -/
def deckLocks (trace : Trace) : List (List Uuid) :=
  trace.filterMap fun told => told.statement.lockedDecks?

/-- What a unit of work keeps to that locks rows. -/
structure Disciplined (trace : Trace) : Prop where
  /-- All decks that are ever locked are asked for by the first lock, in strictly ascending
  order. -/
  requested : ∀ first later, deckLocks trace = first :: later →
    first.Pairwise (fun earlier later => earlier.rank < later.rank) ∧ ∀ ids ∈ later, ids ⊆ first
  /-- A deck and its entries are touched after the deck was locked. -/
  decks : ∀ before told rest deck, trace = before ++ told :: rest →
    told.statement.deck? = some deck → Found before deck
  /-- An entry is written after it was read under a lock. -/
  entries : ∀ before told rest place access, trace = before ++ told :: rest →
    told.statement.access? = some (place, access) → access ≠ .lock → ReadLocked before place
  /-- Entries of binders are touched in ascending order. -/
  binders : SameOwners trace → BindersAscend trace
  /-- After an entry of a binder no deck is locked that was not locked before. -/
  renewed : ∀ before told rest ids, trace = before ++ told :: rest → binderKeys before ≠ [] →
    told.statement.lockedDecks? = some ids → ∀ id ∈ ids, Found before id

/-- Every statement of a trace keeps to the order of locks. -/
def KeepsOrder (trace : Trace) : Prop :=
  ∀ before told rest, trace = before ++ told :: rest → Orderly before told.statement

variable {trace rest : Trace} {told : Told} {statement : Statement} {deck : Uuid}

/-! ## Whole units of work -/

theorem KeepsOrder.of_append (keeps : KeepsOrder (trace ++ rest)) : KeepsOrder trace := by
  rintro before told after rfl
  exact keeps before told (after ++ rest) (List.append_assoc before (told :: after) rest)

theorem KeepsOrder.last (keeps : KeepsOrder (trace ++ [told])) : Orderly trace told.statement :=
  keeps trace told [] rfl

/-- A deck that was found was asked for. -/
theorem Found.requested (found : Found trace deck) : ∃ ids ∈ deckLocks trace, deck ∈ ids := by
  obtain ⟨row, member, rfl⟩ := found
  obtain ⟨told, sent, present⟩ := List.mem_flatMap.mp member
  unfold Told.deckRows at present
  split at present
  · rename_i ids outcome locks _
    split at present
    · obtain ⟨id, asked, own⟩ := List.mem_filterMap.mp present
      rw [id_of_rowOf? own]
      exact ⟨ids, List.mem_filterMap.mpr ⟨told, sent, locks⟩, asked⟩
    · cases present
  · cases present

theorem deckLocks_append (first second : Trace) :
    deckLocks (first ++ second) = deckLocks first ++ deckLocks second :=
  List.filterMap_append

theorem deckLocks_of_quiet (quiet : Quiet trace) : deckLocks trace = [] := by
  rw [deckLocks, List.filterMap_eq_nil_iff]
  intro told member
  exact Statement.lockedDecks?_of_quiet (quiet told member)

/-- By induction on the statements, from the last to the first: a lock that is not the first
one asks for decks that were found, and each of those was asked for before. -/
theorem KeepsOrder.requested (keeps : KeepsOrder trace) {first : List Uuid}
    {later : List (List Uuid)} (locks : deckLocks trace = first :: later) :
    first.Pairwise (fun earlier later => earlier.rank < later.rank) ∧
      ∀ ids ∈ later, ids ⊆ first := by
  induction trace using List.reverseRecOn generalizing first later with
  | nil => cases locks
  | append_singleton before told ih =>
      have ordered := keeps.last
      rw [deckLocks_append] at locks
      rcases asked : told.statement.lockedDecks? with _ | ids
      · rw [deckLocks, deckLocks, List.filterMap_cons, asked] at locks
        exact ih keeps.of_append (by simpa [deckLocks] using locks)
      · obtain ⟨ascending, found⟩ := ordered.locks ids asked
        have last : deckLocks [told] = [ids] := by simp [deckLocks, asked]
        rw [last] at locks
        rcases sofar : deckLocks before with _ | ⟨first', later'⟩
        · rw [sofar] at locks
          obtain ⟨rfl, rfl⟩ := List.cons.inj locks
          exact ⟨ascending, by simp⟩
        · rw [sofar, List.cons_append] at locks
          obtain ⟨rfl, rfl⟩ := List.cons.inj locks
          obtain ⟨ascending', subset⟩ := ih keeps.of_append sofar
          refine ⟨ascending', List.forall_mem_append.mpr ⟨subset, ?_⟩⟩
          rw [List.forall_mem_singleton]
          intro id member
          -- The first alternative is that of a first lock, and there was one before.
          rcases found with quiet | found
          · rw [deckLocks_of_quiet quiet] at sofar
            cases sofar
          · obtain ⟨ids', asked', member'⟩ := (found id member).requested
            rw [sofar] at asked'
            rcases List.mem_cons.mp asked' with rfl | asked'
            · exact member'
            · exact subset ids' asked' member'

/-- By induction on the statements, from the last to the first. -/
theorem KeepsOrder.bindersAscend (keeps : KeepsOrder trace) (same : SameOwners trace) :
    BindersAscend trace := by
  induction trace using List.reverseRecOn with
  | nil => exact List.Pairwise.nil
  | append_singleton before told ih =>
      have sofar := ih keeps.of_append same.of_append
      rw [BindersAscend, binderKeys_append, List.pairwise_append]
      rcases own : told.statement.binderKey? with _ | key
      · have none : binderKeys [told] = [] := by simp [binderKeys, own]
        rw [none]
        exact ⟨sofar, List.Pairwise.nil, by simp⟩
      · have last : binderKeys [told] = [key] := by simp [binderKeys, own]
        rw [last]
        refine ⟨sofar, List.pairwise_singleton _ key, fun earlier member other only => ?_⟩
        rw [List.mem_singleton.mp only]
        exact keeps.last.binder key own same.of_append earlier member

theorem KeepsOrder.disciplined (keeps : KeepsOrder trace) : Disciplined trace where
  requested _ _ locks := keeps.requested locks
  decks before told rest deck split own := (keeps before told rest split).deck deck own
  entries before told rest place access split touches changes :=
    (keeps before told rest split).entry place access touches changes
  binders same := keeps.bindersAscend same
  renewed before told rest ids split touched asked := by
    rcases ((keeps before told rest split).locks ids asked).2 with quiet | found
    · exact absurd (binderKeys_of_quiet quiet) touched
    · exact found

theorem keepsOrder_of_guards (guards : orderly.Guards trace) (keyed : Keyed trace) :
    KeepsOrder trace := by
  rintro before told rest rfl
  exact guards before told rest rfl (Keyed.admits (List.forall_mem_append.mp keyed).1 rfl)

/-- Whatever a server replies, an operation keeps to the order of locks as long as it answers by
key. -/
theorem perform_guards (fresh : Nat → Uuid) (defaultCapacity : Int) (operation : Operation)
    (connection : Connection) (replies : List Reply) (refusal? : Control → Option ServerError) :
    orderly.Guards ((connection.expecting replies refusal?).perform fresh defaultCapacity
      operation).2.trace :=
  (perform_holds (fun _ checked => rule_orderly checked) fresh connection replies refusal?).guards

/-! ## Units of work that run at once -/

/-- What can be locked: the row of a deck, or an entry. -/
inductive Lockable where
  | deck (id : Uuid)
  | entry (place : Place)
  deriving DecidableEq

/-- The place of a row in the order of locks: decks come first, then the entries of binders. -/
def Lockable.rank : Lockable → Nat
  | .deck id => id.rank
  | .entry (.binder key) => Width.values 128 + key.rank
  | .entry (.zone _) => 0

/-- Whether a statement may lock a row. One that changes a deck may lock all its entries. -/
def Statement.touches (statement : Statement) : Lockable → Bool
  | .deck id => id ∈ statement.lockedDecks?.getD [] || statement.deck? = some id
  | .entry (.binder key) => statement.binderKey? = some key
  | .entry (.zone key) => statement.deck? = some key.deck

/-- A call that waits: the statements it has sent before, the one that is under way, and the row
that waits for. -/
structure Waiting where
  before : Trace
  asked : Statement
  wanted : Lockable

/-- The call is that of an operation, over a connection to a server that has so far answered by
key. -/
structure Waiting.Arises (call : Waiting) : Prop where
  sent : ∃ (fresh : Nat → Uuid) (defaultCapacity : Int) (operation : Operation)
      (connection : Connection) (replies : List Reply) (refusal? : Control → Option ServerError)
      (verdict : Verdict) (rest : Trace),
    ((connection.expecting replies refusal?).perform fresh defaultCapacity operation).2.trace =
      call.before ++ ⟨call.asked, verdict⟩ :: rest
  keyed : Keyed call.before
  touches : call.asked.touches call.wanted = true

section Waits

variable {ι : Type} (calls : ι → Waiting) (holds : ι → Lockable → Prop)

/-- Row locks that are held to the end of a unit of work. -/
structure Locking : Prop where
  /-- What a call holds, its statements have touched. The statement under way may hold rows
  already, of several decks those that come before the one it waits for. -/
  taken : ∀ call row, holds call row →
    (∃ told ∈ (calls call).before, told.statement.touches row = true) ∨
      (calls call).asked.touches row = true ∧
        ∀ id wanted, row = .deck id → (calls call).wanted = .deck wanted → id.rank < wanted.rank
  /-- A deck whose row was replied stays locked. -/
  kept : ∀ call deck, Found (calls call).before deck → holds call (.deck deck)
  /-- No two calls hold the same row. -/
  exclusive : ∀ call other row, holds call row → holds other row → call = other

/-- A call waits for another that holds the row it wants. -/
def WaitsFor (call other : ι) : Prop :=
  call ≠ other ∧ holds other (calls call).wanted

end Waits

/-! ## The order of waits -/

theorem Statement.touches_deck_iff {id : Uuid} :
    statement.touches (.deck id) = true ↔
      (∃ ids, statement.lockedDecks? = some ids ∧ id ∈ ids) ∨ statement.deck? = some id := by
  cases locks : statement.lockedDecks? <;> simp [Statement.touches, locks]

theorem touches_of_quiet (quiet : statement.quiet = true) (row : Lockable) :
    statement.touches row = false := by
  rcases row with id | ⟨key | key⟩ <;>
    simp [Statement.touches, Statement.binderKey?, Statement.access?_of_quiet quiet,
      Statement.lockedDecks?_of_quiet quiet, Statement.deck?_of_quiet quiet]

theorem Waiting.Arises.guards {call : Waiting} (arises : call.Arises) :
    KeepsOrder call.before ∧ Orderly call.before call.asked := by
  obtain ⟨fresh, defaultCapacity, operation, connection, replies, refusal?, verdict, rest, sent⟩ :=
    arises.sent
  have guards := perform_guards fresh defaultCapacity operation connection replies refusal?
  rw [sent, List.append_cons] at guards
  obtain ⟨before, asked⟩ := guards_append_singleton.mp guards.of_append
  exact ⟨keepsOrder_of_guards before arises.keyed, asked (arises.keyed.admits rfl)⟩

variable {ι : Type} {calls : ι → Waiting} {holds : ι → Lockable → Prop} {call other : ι}

section Locking

variable (arises : ∀ call, (calls call).Arises) (locking : Locking calls holds)
  (owners : ∀ call, SameOwners (calls call).before)

include arises locking

/-- A call that touches a deck other than by locking it has it locked. -/
theorem holds_of_deck? (touched : (∃ told ∈ (calls call).before, told.statement.deck? = some deck) ∨
    (calls call).asked.deck? = some deck) : holds call (.deck deck) := by
  obtain ⟨keeps, orderly⟩ := (arises call).guards
  apply locking.kept
  rcases touched with ⟨told, member, own⟩ | own
  · obtain ⟨before, rest, split⟩ := List.append_of_mem member
    rw [split]
    exact ((keeps before told rest split).deck deck own).append _
  · exact orderly.deck deck own

/-- No call waits for an entry of a deck, as it has locked the deck. -/
theorem not_waitsFor_zone {key : EntryKey} (wanted : (calls call).wanted = .entry (.zone key))
    (waits : WaitsFor calls holds call other) : False := by
  obtain ⟨different, held⟩ := waits
  have touches := (arises call).touches
  rw [wanted] at touches held
  -- Both calls would have locked the deck the entry lies in.
  have mine : holds call (.deck key.deck) :=
    holds_of_deck? arises locking (.inr (of_decide_eq_true touches))
  have theirs : holds other (.deck key.deck) := by
    apply holds_of_deck? arises locking
    rcases locking.taken other _ held with ⟨told, member, touches⟩ | ⟨touches, -⟩
    · exact .inl ⟨told, member, of_decide_eq_true touches⟩
    · exact .inr (of_decide_eq_true touches)
  exact different (locking.exclusive _ _ _ mine theirs)

/-- A call that waits for a deck it does not hold waits in its first lock. So all it holds
are decks that come before in the same statement. -/
theorem rank_lt_of_holds_deck {row : Lockable} (wanted : (calls call).wanted = .deck deck)
    (free : ¬ holds call (.deck deck)) (held : holds call row) :
    row.rank < (Lockable.deck deck).rank := by
  obtain ⟨-, orderly⟩ := (arises call).guards
  have touches := (arises call).touches
  rw [wanted, Statement.touches_deck_iff] at touches
  rcases touches with ⟨ids, asked, member⟩ | own
  · have first : Quiet (calls call).before := by
      apply (orderly.locks ids asked).2.resolve_right
      intro found
      exact free (locking.kept call deck (found deck member))
    -- Nothing was locked before, so what it holds it has by the statement that waits.
    rcases locking.taken call row held with ⟨told, sent, touched⟩ | ⟨touched, ordered⟩
    · rw [touches_of_quiet (first told sent)] at touched
      cases touched
    · rw [Statement.eq_lockDecks asked] at touched
      rcases row with id | ⟨key | key⟩
      · exact ordered id deck rfl wanted
      · simp [Statement.touches, Statement.binderKey?, Statement.access?] at touched
      · simp [Statement.touches, Statement.deck?] at touched
  · exact absurd (holds_of_deck? arises locking (.inr own)) free

include owners

/-- All that a call holds comes before an entry of a binder that it waits for. -/
theorem rank_lt_of_holds_binder {row : Lockable} {key : BinderKey}
    (wanted : (calls call).wanted = .entry (.binder key))
    (free : ¬ holds call (.entry (.binder key))) (held : holds call row) :
    row.rank < (Lockable.entry (.binder key)).rank := by
  obtain ⟨-, orderly⟩ := (arises call).guards
  have touches := (arises call).touches
  rw [wanted] at touches
  have own : (calls call).asked.binderKey? = some key := of_decide_eq_true touches
  rcases row with id | ⟨earlier | entry⟩
  · exact Nat.lt_of_lt_of_le (rank_lt id) (Nat.le_add_right _ _)
  · have different : earlier ≠ key := by
      rintro rfl
      exact free held
    have apart : earlier.rank ≠ key.rank := fun ranks => different (Ranked.rank_injective ranks)
    have ordered : earlier.rank ≤ key.rank := by
      rcases locking.taken call _ held with ⟨told, sent, touched⟩ | ⟨touched, -⟩
      · apply orderly.binder key own (owners call)
        exact List.mem_filterMap.mpr ⟨told, sent, of_decide_eq_true touched⟩
      · have own' : (calls call).asked.binderKey? = some earlier := of_decide_eq_true touched
        exact absurd (Option.some.inj (own'.symm.trans own)) different
    exact Nat.add_lt_add_left (Nat.lt_of_le_of_ne ordered apart) _
  · have positive : 0 < Width.values 128 := by decide
    exact Nat.lt_of_lt_of_le positive (Nat.le_add_right _ _)

/-- Along a chain of waits the rows that are waited for come in ascending order. -/
theorem rank_lt_of_waitsFor {third : ι} (waits : WaitsFor calls holds call other)
    (onward : WaitsFor calls holds other third) :
    (calls call).wanted.rank < (calls other).wanted.rank := by
  have free : ¬ holds other (calls other).wanted := fun own =>
    onward.1 (locking.exclusive _ _ _ own onward.2)
  rcases wanted : (calls other).wanted with id | ⟨key | key⟩
  · rw [wanted] at free
    exact rank_lt_of_holds_deck arises locking wanted free waits.2
  · rw [wanted] at free
    exact rank_lt_of_holds_binder arises locking owners wanted free waits.2
  · exact (not_waitsFor_zone arises locking wanted onward).elim

theorem rank_lt_of_transGen {third : ι}
    (chain : Relation.TransGen (WaitsFor calls holds) call other)
    (onward : WaitsFor calls holds other third) :
    (calls call).wanted.rank < (calls other).wanted.rank := by
  induction chain generalizing third with
  | single waits => exact rank_lt_of_waitsFor arises locking owners waits onward
  | tail _ waits ih =>
      exact Nat.lt_trans (ih waits) (rank_lt_of_waitsFor arises locking owners waits onward)

/-- No calls wait for each other in a circle. -/
theorem not_transGen_waitsFor (call : ι) :
    ¬ Relation.TransGen (WaitsFor calls holds) call call := by
  intro circle
  obtain ⟨other, waits, -⟩ := Relation.TransGen.head'_iff.mp circle
  exact Nat.lt_irrefl _ (rank_lt_of_transGen arises locking owners circle waits)

end Locking

/-- As long as a server answers by key, every unit of work keeps to the discipline of locks. As
long as it names one owner for each deck too, no units that run at once wait for each other in a
circle. -/
theorem perform_disciplined :
    (∀ {operation : Operation} {connection after : Connection} {fresh : Nat → Uuid}
        {replies : List Reply} {refusal? : Control → Option ServerError} {defaultCapacity : Int},
      ((connection.expecting replies refusal?).perform fresh defaultCapacity operation).2 = after →
        Keyed after.trace → Disciplined after.trace) ∧
      ∀ {ι : Type} (calls : ι → Waiting) (holds : ι → Lockable → Prop),
        (∀ call, (calls call).Arises) → (∀ call, SameOwners (calls call).before) →
          Locking calls holds → ∀ call, ¬ Relation.TransGen (WaitsFor calls holds) call call := by
  constructor
  · rintro operation connection _ fresh replies refusal? defaultCapacity rfl keyed
    exact (keepsOrder_of_guards (perform_guards fresh defaultCapacity operation connection replies
      refusal?) keyed).disciplined
  · intro ι calls holds arises owners locking call
    exact not_transGen_waitsFor arises locking owners call

/-- A transfer asks for both its decks at once. An allocation that goes on to the binder keeps a
deletion of its deck waiting, and does not wait for that. -/
theorem allocation_and_deletion_wait_in_order :
    let owner : Uuid := .ofNat 1
    let card : Uuid := .ofNat 7
    let row : Deck := ⟨⟨owner, "Elves", "modern", none, none⟩, .ofNat 3, default, default⟩
    let higher : Deck := { row with id := .ofNat 5 }
    let found : Outcome := .rows [.ofDeck row]
    let yes : Outcome := .rows [[("exists", .flag true)]]
    let zero : Outcome := .rows [[("sum", .integer 0)]]
    let sent (operation : Operation) (replies : List Outcome) : Connection :=
      ((Connection.idle.expecting (replies.map .ok) fun _ => none).perform .ofNat 60 operation).2
    let transfer := sent (.transfer higher.id row.id card 1 none)
      [.rows [.ofDeck higher, .ofDeck row], zero, .rows [.ofDeck higher]]
    let allocated : Trace :=
      [⟨.lockDecks [row.id], .accepted found⟩, ⟨.cardExists card, .accepted yes⟩,
        ⟨.totalInDeck row.id, .accepted zero⟩]
    let calls (call : Bool) : Waiting :=
      if call then ⟨allocated, .lockBinderEntry owner card, .entry (.binder ⟨owner, card⟩)⟩
      else ⟨[], .lockDecks [row.id], .deck row.id⟩
    let holds (call : Bool) (locked : Lockable) : Prop := call = true ∧ locked = .deck row.id
    deckLocks transfer.trace = [[row.id, higher.id], [higher.id]] ∧ Disciplined transfer.trace ∧
      WaitsFor calls holds false true ∧
      ∀ call, ¬ Relation.TransGen (WaitsFor calls holds) call call := by
  intro owner card row higher found yes zero sent transfer allocated calls holds
  have keyed : Keyed transfer.trace := by decide +kernel
  have locks : deckLocks transfer.trace = [[row.id, higher.id], [higher.id]] := by decide +kernel
  have arises : ∀ call, (calls call).Arises := by
    intro call
    cases call with
    | false =>
        exact {
          sent := ⟨.ofNat, 60, .deleteDeck row.id, .idle, [], fun _ => none, .unanswered, [], rfl⟩
          keyed := by decide
          touches := by decide +kernel }
    | true =>
        exact {
          sent := ⟨.ofNat, 60, .allocate row.id card 1 .main, .idle,
            [.ok found, .ok yes, .ok zero], fun _ => none, .unanswered, [], rfl⟩
          keyed := by decide +kernel
          touches := by decide +kernel }
  have owners : ∀ call, SameOwners (calls call).before := by
    intro call
    cases call with
    | false => exact fun _ member => nomatch member
    | true => decide +kernel
  have locking : Locking calls holds := by
    have known : ∀ other ∈ deckRows allocated, other.id = row.id := by decide +kernel
    constructor
    · rintro _ _ ⟨rfl, rfl⟩
      exact .inl (by decide +kernel)
    · rintro (_ | _) deck ⟨other, member, rfl⟩
      · cases member
      · exact ⟨rfl, congrArg Lockable.deck (known other member)⟩
    · rintro call other locked ⟨rfl, -⟩ ⟨rfl, -⟩
      rfl
  exact ⟨locks, perform_disciplined.1 rfl keyed, ⟨by decide, rfl, rfl⟩,
    perform_disciplined.2 calls holds arises owners locking⟩

/-- The call that waits in the last statement of a trace, which locks an entry of a binder. -/
def Waiting.forBinder (trace : Trace) (key : BinderKey) : Waiting :=
  ⟨trace.dropLast, .lockBinderEntry key.user key.card, .entry (.binder key)⟩

theorem arises_forBinder {fresh : Nat → Uuid} {defaultCapacity : Int} {operation : Operation}
    {connection : Connection} {replies : List Reply} {refusal? : Control → Option ServerError}
    {key : BinderKey}
    (sent : ((connection.expecting replies refusal?).perform fresh defaultCapacity
      operation).2.trace = trace)
    (last : (trace.getLast?.bind fun told => told.statement.access?) = some (.binder key, .lock))
    (keyed : Keyed trace.dropLast) : (Waiting.forBinder trace key).Arises := by
  obtain ⟨⟨statement, verdict⟩, ends, touches⟩ := Option.bind_eq_some_iff.mp last
  obtain ⟨before, rfl⟩ := List.getLast?_eq_some_iff.mp ends
  have same : statement = .lockBinderEntry key.user key.card := by
    cases statement <;> cases touches
    rfl
  rw [same] at sent
  constructor
  · refine ⟨fresh, defaultCapacity, operation, connection, replies, refusal?, verdict, [], ?_⟩
    rw [sent, Waiting.forBinder, List.dropLast_concat]
  · exact keyed
  · simp [Waiting.forBinder, Statement.touches, Statement.binderKey?, Statement.access?]

/-- A server that names another owner for each deck that is locked once more makes a transfer go
back to a binder that comes before the one it has touched, and two such transfers wait for each
other. -/
theorem changed_owners_wait_in_circle :
    let card : Uuid := .ofNat 7
    let row (id owner : Nat) : Deck :=
      ⟨⟨.ofNat owner, "Elves", "modern", none, none⟩, .ofNat id, default, default⟩
    let yes : Reply := .ok (.rows [[("exists", .flag true)]])
    let zero : Reply := .ok (.rows [[("sum", .integer 0)]])
    let replies (source destination first second : Nat) : List Reply :=
      [.ok (.rows [.ofDeck (row source 1), .ofDeck (row destination 1)]), zero,
        .ok (.rows [.ofDeck (row source first)]),
        .ok (.rows [.ofDeckEntry ⟨.ofNat source, card, .main, 1, default⟩]), .ok (.affected 1),
        yes, yes, .ok (.rows []), .ok (.rows [.ofBinderEntry ⟨.ofNat first, card, 1, default⟩]),
        .ok (.rows [.ofDeck (row destination second)]), yes, zero]
    let sent (source destination first second : Nat) : Trace :=
      ((Connection.idle.expecting (replies source destination first second) fun _ => none).perform
        .ofNat 60 (.transfer (.ofNat source) (.ofNat destination) card 1 none)).2.trace
    let calls (call : Bool) : Waiting :=
      if call then .forBinder (sent 3 5 2 1) ⟨.ofNat 1, card⟩
      else .forBinder (sent 13 15 1 2) ⟨.ofNat 2, card⟩
    let locked (call : Bool) : List Lockable :=
      if call then [.deck (.ofNat 3), .deck (.ofNat 5), .entry (.binder ⟨.ofNat 2, card⟩)]
      else [.deck (.ofNat 13), .deck (.ofNat 15), .entry (.binder ⟨.ofNat 1, card⟩)]
    let holds (call : Bool) (row : Lockable) : Prop := row ∈ locked call
    Keyed (sent 3 5 2 1) ∧ ¬ BindersAscend (sent 3 5 2 1) ∧ (∀ call, (calls call).Arises) ∧
      Locking calls holds ∧ Relation.TransGen (WaitsFor calls holds) true true := by
  intro card row yes zero replies sent calls locked holds
  have keyed : Keyed (sent 3 5 2 1) := by decide +kernel
  have descends : ¬ BindersAscend (sent 3 5 2 1) := by decide +kernel
  have arises : ∀ call, (calls call).Arises := by
    intro call
    cases call with
    | false => exact arises_forBinder rfl (by decide +kernel) (by decide +kernel)
    | true => exact arises_forBinder rfl (by decide +kernel) (by decide +kernel)
  have locking : Locking calls holds := by
    have touched : ∀ call, ∀ row ∈ locked call,
        ∃ told ∈ (calls call).before, told.statement.touches row = true := by decide +kernel
    have kept : ∀ call, ∀ row ∈ deckRows (calls call).before, .deck row.id ∈ locked call := by
      decide +kernel
    have apart : ∀ call other, ∀ row ∈ locked call, row ∈ locked other → call = other := by
      decide +kernel
    constructor
    · exact fun call row held => .inl (touched call row held)
    · rintro call deck ⟨row, member, rfl⟩
      exact kept call row member
    · exact fun call other row mine theirs => apart call other row mine theirs
  have circle : Relation.TransGen (WaitsFor calls holds) true true := by
    have forth : WaitsFor calls holds true false := ⟨by decide, by decide +kernel⟩
    have back : WaitsFor calls holds false true := ⟨by decide, by decide +kernel⟩
    exact (Relation.TransGen.single forth).tail back
  exact ⟨keyed, descends, arises, locking, circle⟩

end CardInventory.Database
