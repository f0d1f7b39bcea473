import CardInventory.Inventory.Rules

/-!
# Arguments of operations

What an operation checks before it asks storage for anything. Arguments are refused
as invalid and for no other reason, and those of a change of a deck are kept but for
the blank ends of names.
-/

namespace CardInventory.Inventory

open Ledger

/-- The rule of an operation, which fails at once where its arguments are refused. -/
def Operation.task (defaultCapacity : Int) (operation : Operation) : Ledger operation.Result :=
  match operation.rule defaultCapacity with
  | .ok rule => rule
  | .error failure => .fail failure

variable {defaultCapacity : Int} {operation : Operation}

theorem task_of_ok {rule : Ledger operation.Result}
    (accepted : operation.rule defaultCapacity = .ok rule) :
    operation.task defaultCapacity = rule := by
  simp only [Operation.task, accepted]

theorem task_of_error {failure : Failure}
    (refused : operation.rule defaultCapacity = .error failure) :
    operation.task defaultCapacity = .fail failure := by
  simp only [Operation.task, refused]

/-- A check that refuses nothing but invalid arguments. -/
def ChecksArguments {α : Type} (checked : Except Failure α) : Prop :=
  ∀ ⦃failure⦄, checked = .error failure → ∃ reason, failure = .invalid reason

variable {α β : Type}

theorem bind_eq_ok_iff {ε : Type} {first : Except ε α} {second : α → Except ε β} {value : β} :
    (first >>= second) = .ok value ↔
      ∃ between, first = .ok between ∧ second between = .ok value := by
  cases first <;> simp [bind, Except.bind]

theorem ChecksArguments.ok (value : α) : ChecksArguments (.ok value) :=
  fun _ failed => nomatch failed

theorem ChecksArguments.invalid (reason : Reason) :
    ChecksArguments (.error (.invalid reason) : Except Failure α) :=
  fun _ failed => ⟨reason, (Except.error.inj failed).symm⟩

theorem ChecksArguments.bind {first : Except Failure α} {second : α → Except Failure β}
    (checks : ChecksArguments first) (checks' : ∀ value, ChecksArguments (second value)) :
    ChecksArguments (first >>= second) := by
  intro failure failed
  cases outcome : first with
  | error cause =>
      rw [outcome] at failed
      cases failed
      exact checks outcome
  | ok value =>
      rw [outcome] at failed
      exact checks' value failed

theorem ChecksArguments.map {checked : Except Failure α} (checks : ChecksArguments checked)
    (f : α → β) : ChecksArguments (f <$> checked) := by
  intro failure failed
  cases outcome : checked with
  | error cause =>
      rw [outcome] at failed
      cases failed
      exact checks outcome
  | ok value =>
      rw [outcome] at failed
      cases failed

theorem ChecksArguments.mapM {check : α → Except Failure β}
    (checks : ∀ value, ChecksArguments (check value)) (argument : Option α) :
    ChecksArguments (argument.mapM check) := by
  cases argument with
  | none => exact .ok none
  | some value => exact (checks value).map some

/-- What a check makes of every value it accepts, it makes of one that may be absent. -/
theorem mapM_eq_map {check : α → Except Failure β} {f : α → β}
    (makes : ∀ ⦃value checked⦄, check value = .ok checked → checked = f value)
    {argument : Option α} {checked : Option β} (accepted : argument.mapM check = .ok checked) :
    checked = argument.map f := by
  cases argument with
  | none => exact (Except.ok.inj accepted).symm
  | some value =>
      rw [Option.mapM_some] at accepted
      cases outcome : check value with
      | error failure =>
          rw [outcome] at accepted
          cases accepted
      | ok value' =>
          rw [outcome] at accepted
          cases accepted
          rw [makes outcome, Option.map_some]

theorem mapM_eq_of_same {check : α → Except Failure α}
    (same : ∀ ⦃value checked⦄, check value = .ok checked → checked = value)
    {argument checked : Option α} (accepted : argument.mapM check = .ok checked) :
    checked = argument := by
  rw [mapM_eq_map same accepted, Option.map_id']

theorem nonBlank_checks (text : String) (reason : Reason) :
    ChecksArguments (nonBlank text reason) := by
  unfold nonBlank
  split
  · exact .invalid reason
  · exact .ok _

theorem validCapacity_checks (capacity : Int) : ChecksArguments (validCapacity capacity) := by
  unfold validCapacity
  split
  · exact .invalid _
  · exact .ok capacity

theorem validCapacity_eq_ok {capacity checked : Int}
    (accepted : validCapacity capacity = .ok checked) : checked = capacity := by
  unfold validCapacity at accepted
  split at accepted
  · cases accepted
  · exact (Except.ok.inj accepted).symm

theorem draft_checks (defaultCapacity : Int) (proposal : DeckProposal) :
    ChecksArguments (proposal.draft defaultCapacity) := by
  refine (nonBlank_checks _ _).bind fun name => (nonBlank_checks _ _).bind fun format =>
    ChecksArguments.bind ?_ fun capacity => .ok _
  unfold DeckProposal.effectiveCapacity
  split
  · exact .ok none
  · split
    · exact (validCapacity_checks _).map some
    · exact .ok (some defaultCapacity)

theorem checkedPatch_checks (patch : DeckPatch) : ChecksArguments (checkedPatch patch) :=
  (ChecksArguments.mapM (nonBlank_checks · _) _).bind fun _ =>
    (ChecksArguments.mapM (nonBlank_checks · _) _).bind fun _ =>
      (ChecksArguments.mapM (ChecksArguments.mapM validCapacity_checks) _).bind fun _ => .ok _

/-- The capacity that is asked for is the one that is set. -/
theorem capacity_of_checkedPatch {patch patch' : DeckPatch}
    (checked : checkedPatch patch = .ok patch') : patch'.capacity = patch.capacity := by
  obtain ⟨name, -, checked⟩ := bind_eq_ok_iff.mp checked
  obtain ⟨format, -, checked⟩ := bind_eq_ok_iff.mp checked
  obtain ⟨capacity, accepted, checked⟩ := bind_eq_ok_iff.mp checked
  obtain rfl : _ = patch' := Except.ok.inj checked
  exact mapM_eq_of_same (fun _ _ => mapM_eq_of_same fun _ _ => validCapacity_eq_ok) accepted

/-- Arguments are refused as invalid and for no other reason. -/
theorem rule_checks (defaultCapacity : Int) (operation : Operation) :
    ChecksArguments (operation.rule defaultCapacity) := by
  cases operation with
  | createUser draft =>
      rw [Operation.rule]
      split
      · exact .invalid _
      · exact .ok _
  | registerCard draft =>
      rw [Operation.rule]
      split
      · exact .invalid _
      · split
        · exact .invalid _
        · exact .ok _
  | createDeck proposal => exact (draft_checks defaultCapacity proposal).bind fun _ => .ok _
  | updateDeck id patch => exact (checkedPatch_checks patch).bind fun _ => .ok _
  | _ => exact .ok _

end CardInventory.Inventory
