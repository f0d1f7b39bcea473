import CardInventory.Proofs.Database.Access

/-!
# Quantities on the wire

What the statements of a unit say of quantities: an addition adds its parameter, and
a statement that sets or removes an entry changes it by what the last locking read of
the entry said. The changes of a trace are entered one by one, in the order in which
the statements were accepted.
-/

namespace CardInventory.Database

open Storage

/-- The copies in a place by the reply to a statement that locks it. -/
def Place.quantity (place : Place) (outcome : Outcome) : Int :=
  match place with
  | .binder _ =>
      match outcome.first? Row.binderEntry with
      | .ok entry => entry.elim 0 BinderEntry.quantity
      | .error _ => 0
  | .zone _ =>
      match outcome.first? Row.deckEntry with
      | .ok entry => entry.elim 0 DeckEntry.quantity
      | .error _ => 0

/-- The copies in a place by a statement that has locked it. -/
def Told.locked? (place : Place) (told : Told) : Option Int :=
  match told.statement.access?, told.verdict with
  | some (own, .lock), .accepted outcome =>
      if own = place then some (own.quantity outcome) else none
  | _, _ => none

/-- The copies in a place by the last statement that has locked it. -/
def lastLocked? (place : Place) (trace : Trace) : Option Int :=
  trace.reverse.findSome? (Told.locked? place)

/-- Copies that a place gains, or loses where their number is negative. -/
structure Change where
  place : Place
  amount : Int
  deriving DecidableEq

/-- What a statement changes, if it is accepted. -/
def Told.change? (before : Trace) (told : Told) : Option Change :=
  match told.statement.access?, told.verdict with
  | some (place, .add quantity), .accepted _ => some ⟨place, quantity⟩
  | some (place, .set quantity), .accepted _ =>
      some ⟨place, quantity - (lastLocked? place before).getD 0⟩
  | some (place, .remove), .accepted _ => some ⟨place, -(lastLocked? place before).getD 0⟩
  | _, _ => none

/-- The changes by the statements of a trace that follows another. -/
def changesAfter (before : Trace) : Trace → List Change
  | [] => []
  | told :: rest => (told.change? before).toList ++ changesAfter (before ++ [told]) rest

/-- The changes by the statements of a trace. -/
def changes (trace : Trace) : List Change :=
  changesAfter [] trace

/-- Whether a statement deletes all entries of a deck. -/
def Statement.sweeps : Statement → Bool
  | .clearDeck _ => true
  | .deleteDeck _ => true
  | _ => false

/-- Whether a statement changes entries. -/
def Statement.writes (statement : Statement) : Bool :=
  statement.sweeps || statement.access?.any fun access => access.2 ≠ .lock

/-- The accepted statements of a trace that change entries. -/
def writes (trace : Trace) : List Statement :=
  (trace.filter fun told =>
    match told.verdict with
    | .accepted _ => told.statement.writes
    | _ => false).map Told.statement

/-- A quantity is written as it must be: it is positive, an addition fits on top of what was
locked, and what is set or removed was locked. -/
def Covered (before : Trace) (statement : Statement) : Prop :=
  match statement.access? with
  | some (place, .add quantity) =>
      1 ≤ quantity ∧
        ∃ held, lastLocked? place before = some held ∧ held + quantity ≤ Width.greatest 32
  | some (place, .set quantity) => 1 ≤ quantity ∧ ∃ held, lastLocked? place before = some held
  | some (place, .remove) => ∃ held, lastLocked? place before = some held
  | _ => True

variable {trace rest : Trace} {place : Place}

/-! ## What is locked -/

/-- The reply to a statement that locks a place is the last one to do so. -/
theorem lastLocked?_append_lock {statement : Statement} {outcome : Outcome}
    (locks : statement.access? = some (place, .lock)) :
    lastLocked? place (trace ++ [⟨statement, .accepted outcome⟩]) =
      some (place.quantity outcome) := by
  simp [lastLocked?, Told.locked?, locks]

/-! ## What is changed -/

theorem changes_nil : changes [] = [] :=
  rfl

theorem changesAfter_append (before first second : Trace) :
    changesAfter before (first ++ second) =
      changesAfter before first ++ changesAfter (before ++ first) second := by
  induction first generalizing before with
  | nil => simp [changesAfter]
  | cons told rest ih => simp [changesAfter, ih]

theorem changes_append_singleton (told : Told) :
    changes (trace ++ [told]) = changes trace ++ (told.change? trace).toList := by
  simp [changes, changesAfter_append, changesAfter]

theorem change?_of_no_access {told : Told} (none : told.statement.access? = none) :
    told.change? trace = .none := by
  simp [Told.change?, none]

theorem changes_append_quiet (quiet : Quiet rest) : changes (trace ++ rest) = changes trace := by
  suffices none : ∀ before, changesAfter before rest = [] by
    rw [changes, changesAfter_append, none, List.append_nil, changes]
  induction rest with
  | nil => exact fun _ => rfl
  | cons told rest ih =>
      intro before
      have first : told.change? before = none :=
        change?_of_no_access (Statement.access?_of_quiet (quiet told List.mem_cons_self))
      rw [changesAfter, first, ih fun other member => quiet other (List.mem_cons_of_mem _ member)]
      rfl

theorem changes_append_of_no_access {told : Told} (none : told.statement.access? = none) :
    changes (trace ++ [told]) = changes trace := by
  simp [changes_append_singleton, change?_of_no_access none]

theorem changes_append_lock {told : Told} (locks : told.statement.access? = some (place, .lock)) :
    changes (trace ++ [told]) = changes trace := by
  simp [changes_append_singleton, Told.change?, locks]

theorem changes_append_add {statement : Statement} {quantity : Int} (outcome : Outcome)
    (adds : statement.access? = some (place, .add quantity)) :
    changes (trace ++ [⟨statement, .accepted outcome⟩]) = changes trace ++ [⟨place, quantity⟩] := by
  simp [changes_append_singleton, Told.change?, adds]

theorem changes_append_set {statement : Statement} {quantity held : Int} (outcome : Outcome)
    (sets : statement.access? = some (place, .set quantity))
    (locked : lastLocked? place trace = some held) :
    changes (trace ++ [⟨statement, .accepted outcome⟩]) =
      changes trace ++ [⟨place, quantity - held⟩] := by
  simp [changes_append_singleton, Told.change?, sets, locked]

theorem changes_append_remove {statement : Statement} {held : Int} (outcome : Outcome)
    (removes : statement.access? = some (place, .remove))
    (locked : lastLocked? place trace = some held) :
    changes (trace ++ [⟨statement, .accepted outcome⟩]) = changes trace ++ [⟨place, -held⟩] := by
  simp [changes_append_singleton, Told.change?, removes, locked]

/-! ## What is written -/

theorem writes_append (first second : Trace) :
    writes (first ++ second) = writes first ++ writes second := by
  simp [writes]

theorem sweeps_of_quiet {statement : Statement} (quiet : statement.quiet = true) :
    statement.sweeps = false := by
  have none := Statement.deck?_of_quiet quiet
  cases statement <;> first
    | rfl
    | cases none

theorem writes_append_quiet (quiet : Quiet rest) : writes (trace ++ rest) = writes trace := by
  have none : writes rest = [] := by
    simp only [writes, List.map_eq_nil_iff, List.filter_eq_nil_iff]
    intro told member
    have still := quiet told member
    simp only [Statement.writes, sweeps_of_quiet still, Statement.access?_of_quiet still]
    split <;> simp
  rw [writes_append, none, List.append_nil]

theorem writes_append_of_not_writes {told : Told} (reads : told.statement.writes = false) :
    writes (trace ++ [told]) = writes trace := by
  rcases told with ⟨statement, verdict⟩
  rw [writes_append, List.append_right_eq_self]
  cases verdict <;> simp_all [writes]

theorem writes_append_of_writes {statement : Statement} (outcome : Outcome)
    (written : statement.writes = true) :
    writes (trace ++ [⟨statement, .accepted outcome⟩]) = writes trace ++ [statement] := by
  simp [writes, written]

end CardInventory.Database
