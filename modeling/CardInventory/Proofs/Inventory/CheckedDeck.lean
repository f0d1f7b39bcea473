import CardInventory.Proofs.Inventory.Arguments
import CardInventory.Proofs.Memory.Schema
import CardInventory.Proofs.Text.Blank

/-!
# Decks whose arguments have been checked

What an operation has checked of a deck, or of a change of one, is what the schema
asks of the row: after it no name is blank and no capacity is below one.
-/

namespace CardInventory.Inventory

open Ledger Text

variable {defaultCapacity : Int}

theorem isBlankText_of_nonBlank {text checked : String} {reason : Reason}
    (accepted : nonBlank text reason = .ok checked) : isBlankText checked = false := by
  unfold nonBlank at accepted
  split at accepted
  · cases accepted
  · rename_i named
    obtain rfl := Except.ok.inj accepted
    rw [isBlankText_trim]
    simpa using named

theorem one_le_of_validCapacity {capacity checked : Int}
    (accepted : validCapacity capacity = .ok checked) : 1 ≤ checked := by
  unfold validCapacity at accepted
  split at accepted
  · cases accepted
  · obtain rfl := Except.ok.inj accepted
    omega

/-- What a check makes of a value that is given holds of the value that is left. -/
theorem of_mapM {α β : Type} {check : α → Except Failure β} {property : β → Prop}
    (checks : ∀ ⦃value checked⦄, check value = .ok checked → property checked)
    {argument : Option α} {checked : Option β} (accepted : argument.mapM check = .ok checked) :
    ∀ value, checked = some value → property value := by
  rintro value rfl
  cases argument with
  | none => cases accepted
  | some given =>
      rw [Option.mapM_some] at accepted
      cases outcome : check given with
      | error failure =>
          rw [outcome] at accepted
          cases accepted
      | ok result =>
          rw [outcome] at accepted
          cases accepted
          exact checks outcome

/-- A deck gets a capacity of at least one, if it gets any. -/
theorem one_le_of_effectiveCapacity (positive : 1 ≤ defaultCapacity) {proposal : DeckProposal}
    {capacity : Option Int}
    (accepted : proposal.effectiveCapacity defaultCapacity = .ok capacity) :
    ∀ limit, capacity = some limit → 1 ≤ limit := by
  rintro limit rfl
  unfold DeckProposal.effectiveCapacity at accepted
  split at accepted
  · cases accepted
  · split at accepted
    · rename_i given _
      cases outcome : validCapacity given with
      | error failure =>
          rw [outcome] at accepted
          cases accepted
      | ok checked =>
          rw [outcome] at accepted
          cases accepted
          exact one_le_of_validCapacity outcome
    · cases accepted
      exact positive

/-- A proposal that is accepted meets the checks of the schema. -/
theorem sound_of_draft (positive : 1 ≤ defaultCapacity) {proposal : DeckProposal}
    {draft : DeckDraft} (accepted : proposal.draft defaultCapacity = .ok draft) : draft.Sound := by
  obtain ⟨name, named, accepted⟩ := bind_eq_ok_iff.mp accepted
  obtain ⟨format, formatted, accepted⟩ := bind_eq_ok_iff.mp accepted
  obtain ⟨capacity, limited, accepted⟩ := bind_eq_ok_iff.mp accepted
  obtain rfl := Except.ok.inj accepted
  exact ⟨isBlankText_of_nonBlank named, isBlankText_of_nonBlank formatted,
    one_le_of_effectiveCapacity positive limited⟩

/-- A change that is accepted leaves a deck that meets the checks of the schema. -/
theorem sound_of_checkedPatch {patch checked : DeckPatch}
    (accepted : checkedPatch patch = .ok checked) {deck : Deck} (sound : deck.toDeckDraft.Sound)
    (now : Instant) : (checked.apply deck now).toDeckDraft.Sound := by
  obtain ⟨name, named, accepted⟩ := bind_eq_ok_iff.mp accepted
  obtain ⟨format, formatted, accepted⟩ := bind_eq_ok_iff.mp accepted
  obtain ⟨capacity, limited, accepted⟩ := bind_eq_ok_iff.mp accepted
  obtain rfl := Except.ok.inj accepted
  refine ⟨?_, ?_, ?_⟩
  · cases name with
    | none => exact sound.name
    | some text => exact of_mapM (fun _ _ => isBlankText_of_nonBlank) named text rfl
  · cases format with
    | none => exact sound.format
    | some text => exact of_mapM (fun _ _ => isBlankText_of_nonBlank) formatted text rfl
  · cases capacity with
    | none => exact sound.capacity
    | some limit =>
        have one_le := of_mapM (fun _ _ => of_mapM fun _ _ => one_le_of_validCapacity) limited
        exact one_le limit rfl

end CardInventory.Inventory
