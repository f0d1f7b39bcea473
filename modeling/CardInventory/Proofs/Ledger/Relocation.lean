import CardInventory.Proofs.Ledger.Cause
import CardInventory.Proofs.Ledger.Movement
import CardInventory.Proofs.Ledger.Report
import CardInventory.Proofs.Memory.Place

/-!
# Movements as relocations

A movement that succeeds relocates copies: from a binder into a zone, from a zone
into a binder, or from one zone into another. Between two decks they pass through
the binder of the owner, since that is how the two halves of a transfer meet.
-/

namespace CardInventory

open Memory Storage

namespace Ledger

variable {moments : Nat → Moment} {store : Store}

theorem allocate_relocates (valid : store.Valid) (deck card : Uuid) (quantity : Int)
    (zone : Zone) :
    Reports moments store (allocate deck card quantity zone) fun _ after =>
      ∃ owner, store.ownerOf? deck = some owner ∧
        Store.Relocated store after (.binder owner card) (.zone deck card zone) quantity [] := by
  intro drawn
  apply (allocate_ends valid deck card quantity zone).mono_ok
  rintro _ after ⟨-, -, row, debited, added, found, -, same⟩
  have owned : store.ownerOf? deck = some row.owner := by simp [Store.ownerOf?, found]
  have elsewhere : Place.binder row.owner card ≠ .zone deck card zone := by simp
  exact ⟨row.owner, owned, same ▸ store.relocated_setAt elsewhere quantity debited added⟩

theorem deallocate_relocates (valid : store.Valid) (deck card : Uuid) (quantity : Int)
    (zone : Option Zone) :
    Reports moments store (deallocate deck card quantity zone) fun _ after =>
      after.Valid ∧ ∃ owner, store.ownerOf? deck = some owner ∧
        Store.Relocated store after (.zone deck card (store.sourceZone deck card zone))
          (.binder owner card) quantity [] := by
  intro drawn
  apply (deallocate_ends valid deck card quantity zone).mono_ok
  rintro _ after ⟨-, row, entry, removed, credited, found, listed, same, moved⟩
  have owned : store.ownerOf? deck = some row.owner := by simp [Store.ownerOf?, found]
  rw [Store.removalEntry?_eq] at listed
  obtain ⟨own, -⟩ := valid.get?_entries listed
  have elsewhere : Place.zone deck card entry.zone ≠ .binder row.owner card := by simp
  rw [← own]
  exact ⟨moved.valid, row.owner, owned,
    same ▸ store.relocated_setAt elsewhere quantity removed credited⟩

theorem moveZone_relocates (valid : store.Valid) (deck card : Uuid) (quantity : Int)
    (source target : Zone) :
    Reports moments store (moveZone deck card quantity source target) fun _ after =>
      Store.Relocated store after (.zone deck card source) (.zone deck card target) quantity
        [] := by
  refine .ensuring fun _ => .ensuring fun distinct => .lockingDeck fun row found => ?_
  have different : source ≠ target := of_decide_eq_true distinct
  have deckExists : store.decks.contains deck = true := Table.contains_of_get? found
  intro drawn
  rw [Procedure.ends_bind]
  apply (removeFromZone_taken valid deck card quantity (some source)).mono
  · rintro removal ⟨between, drawn⟩ ⟨-, entry, removed, -, member, taken⟩
    obtain rfl : entry.zone = source := List.mem_singleton.mp member
    have less := taken.valid valid deckExists
    obtain rfl := taken.placed
    rw [Procedure.ends_bind]
    apply (addToZone_ends less deck card quantity target).mono_ok
    rintro added after ⟨-, time, -, same⟩
    rw [Store.placed_place_of_zone_ne _ _ _ _ _ _ different] at same
    have elsewhere : Place.zone deck card entry.zone ≠ .zone deck card target := by
      simpa using different
    exact (Procedure.ends_pure (ZoneMove.mk removal added)).mpr
      (same ▸ store.relocated_setAt elsewhere quantity removed time)
  · exact fun _ _ _ => trivial

/-- A transfer takes its copies from the one deck to the other through the owner's binder. -/
theorem transfer_relocates (valid : store.Valid) (source destination card : Uuid)
    (quantity : Int) (zone : Option Zone) :
    Reports moments store (transfer source destination card quantity zone) fun _ after =>
      ∃ owner, store.ownerOf? source = some owner ∧
        Store.Relocated store after (.zone source card (store.sourceZone source card zone))
          (.zone destination card .main) quantity [.binder owner card] := by
  refine .ensuring fun _ => .ensuring fun _ => .reading (fun _ => rfl) <|
    .finding fun sourceRow sourceFound => .finding fun row found => .ensuring fun owners =>
      .ensuringCapacity <| .bind (deallocate_relocates valid source card quantity zone) ?_
  rw [rowOf?_filterMap valid (by simp)] at sourceFound found
  have sameOwner : store.ownerOf? source = store.ownerOf? destination := by
    simpa [Store.ownerOf?, sourceFound, found] using owners
  rintro removal between ⟨midway, owner, owned, first⟩
  refine .bind (allocate_relocates midway destination card quantity .main) ?_
  rintro entry after ⟨owner', owned', second⟩
  have kept : between.ownerOf? destination = some owner := by
    rw [Store.ownerOf?, first.decks, ← Store.ownerOf?, ← sameOwner, owned]
  obtain rfl : owner = owner' := Option.some.inj (kept.symm.trans owned')
  exact .pure ⟨owner, owned, first.trans second⟩

end Ledger

end CardInventory
