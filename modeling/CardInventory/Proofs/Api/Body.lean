import CardInventory.Api.Body.Movement
import CardInventory.Api.Body.User
import CardInventory.Proofs.Instant.Text
import CardInventory.Proofs.Json.Record
import CardInventory.Proofs.Uuid

/-!
# Bodies that are read back

A body that has been accepted is accepted again in the text that is written for it, as
the same record. This text is an object, whether the accepted one was an object or an
array. Every record whose numbers have their widths and whose instants can be read is
accepted in its own text, so none of them is lost on the way.
-/

namespace CardInventory.Api

open Inventory Json Json.Field Json.Format Ledger

/-- Records of a format that are accepted come back from their texts, and those with the
right numbers and instants are accepted. -/
structure Lossless {α : Type} (format : Format α) (sound : α → Prop) : Prop where
  reread : ∀ bytes record, format.decode bytes = .ok record →
    format.decode (format.write record) = .ok record
  accepted : ∀ record, sound record → format.decode (format.write record) = .ok record

theorem Lossless.of_faithful {α : Type} {format : Format α} {sound : α → Prop}
    (faithful : format.Faithful) (recovers : ∀ record, sound record → format.Recovers record) :
    Lossless format sound where
  reread _ _ accepted := Format.decode_write (faithful.recovers accepted)
  accepted record holds := Format.decode_write (recovers record holds)

/-! ## Values -/

section Values

theorem uuid_recovers (id : Uuid) : Format.uuid.Recovers id :=
  spelling_recovers id.parse?_text

theorem uuid_faithful : Format.uuid.Faithful :=
  spelling_faithful fun _ id _ => id.parse?_text

theorem int32_faithful : int32.Faithful :=
  integer_faithful (by decide) (by decide)

theorem int32_solid : int32.Solid :=
  integer_solid _ _

theorem within_of_fits {width : Nat} {value : Int} (fits : Width.fits width value = true) :
    Width.least width ≤ value ∧ value ≤ Width.greatest width := by
  simpa [Width.fits] using fits

theorem int32_recovers {value : Int} (fits : Width.fits 32 value = true) :
    int32.Recovers value :=
  integer_recovers (by decide) (by decide) (within_of_fits fits)

theorem int64_recovers {value : Int} (fits : Width.fits 64 value = true) :
    int64.Recovers value :=
  integer_recovers (by decide) (by decide) (within_of_fits fits)

theorem zone_faithful : zone.Faithful :=
  choice_faithful Zone.named?_name

theorem zone_recovers (value : Zone) : zone.Recovers value :=
  choice_recovers value.named?_name

theorem zone_solid : zone.Solid :=
  choice_solid _ _

end Values

/-! ## Requests -/

theorem userDraft_lossless : Lossless userDraft fun _ => True := by
  refine .of_faithful (record_faithful (by decide) ⟨?_, ?_, trivial⟩ fun _ => rfl)
    fun draft _ => record_recovers (by decide) rfl ⟨?_, ?_, trivial⟩
  · exact required_faithful text_faithful
  · exact optional_faithful text_solid text_faithful
  · exact required_returns (text_recovers draft.username)
  · exact optional_returns (nullable_recovers text_solid fun email _ => text_recovers email)

theorem deckProposal_lossless :
    Lossless deckProposal fun deck =>
      ∀ capacity, deck.capacity = some capacity → Width.fits 32 capacity = true := by
  refine .of_faithful
    (record_faithful (by decide) ⟨?_, ?_, ?_, ?_, ?_, ?_, trivial⟩ fun _ => rfl)
    fun deck fits => record_recovers (by decide) rfl ⟨?_, ?_, ?_, ?_, ?_, ?_, trivial⟩
  · exact required_faithful uuid_faithful
  · exact required_faithful text_faithful
  · exact required_faithful text_faithful
  · exact optional_faithful int32_solid int32_faithful
  · exact withDefault_faithful flag_faithful (flag_recovers false)
  · exact optional_faithful text_solid text_faithful
  · exact required_returns (uuid_recovers deck.owner)
  · exact required_returns (text_recovers deck.name)
  · exact required_returns (text_recovers deck.format)
  · exact optional_returns
      (nullable_recovers int32_solid fun capacity same => int32_recovers (fits capacity same))
  · exact withDefault_returns (flag_recovers deck.unlimited)
  · exact optional_returns (nullable_recovers text_solid fun notes _ => text_recovers notes)

/-- The fields of a change are left alone, cleared or set. -/
theorem deckPatch_lossless :
    Lossless deckPatch fun patch =>
      ∀ capacity, patch.capacity = some (some capacity) → Width.fits 32 capacity = true := by
  refine .of_faithful (record_faithful (by decide) ⟨?_, ?_, ?_, ?_, trivial⟩ fun _ => rfl)
    fun patch fits => record_recovers (by decide) rfl ⟨?_, ?_, ?_, ?_, trivial⟩
  · exact optional_faithful text_solid text_faithful
  · exact optional_faithful text_solid text_faithful
  · exact patch_faithful text_solid text_faithful
  · exact patch_faithful int32_solid int32_faithful
  · exact optional_returns (nullable_recovers text_solid fun name _ => text_recovers name)
  · exact optional_returns (nullable_recovers text_solid fun format _ => text_recovers format)
  · exact patch_returns fun _ _ =>
      nullable_recovers text_solid fun notes _ => text_recovers notes
  · exact patch_returns fun written set =>
      nullable_recovers int32_solid fun capacity same =>
        int32_recovers (fits capacity (set.trans (congrArg some same)))

theorem quantityChange_lossless :
    Lossless quantityChange fun change => Width.fits 32 change.quantity = true := by
  refine .of_faithful (record_faithful (by decide) ⟨?_, trivial⟩ fun _ => rfl)
    fun change fits => record_recovers (by decide) rfl ⟨?_, trivial⟩
  · exact required_faithful int32_faithful
  · exact required_returns (int32_recovers fits)

theorem allocation_lossless :
    Lossless allocation fun body => Width.fits 32 body.quantity = true := by
  refine .of_faithful (record_faithful (by decide) ⟨?_, ?_, ?_, trivial⟩ fun _ => rfl)
    fun body fits => record_recovers (by decide) rfl ⟨?_, ?_, ?_, trivial⟩
  · exact required_faithful uuid_faithful
  · exact required_faithful int32_faithful
  · exact withDefault_faithful zone_faithful (zone_recovers .main)
  · exact required_returns (uuid_recovers body.card)
  · exact required_returns (int32_recovers fits)
  · exact withDefault_returns (zone_recovers body.zone)

theorem deallocation_lossless :
    Lossless deallocation fun body => Width.fits 32 body.quantity = true := by
  refine .of_faithful (record_faithful (by decide) ⟨?_, ?_, ?_, trivial⟩ fun _ => rfl)
    fun body fits => record_recovers (by decide) rfl ⟨?_, ?_, ?_, trivial⟩
  · exact required_faithful uuid_faithful
  · exact required_faithful int32_faithful
  · exact optional_faithful zone_solid zone_faithful
  · exact required_returns (uuid_recovers body.card)
  · exact required_returns (int32_recovers fits)
  · exact optional_returns (nullable_recovers zone_solid fun zone _ => zone_recovers zone)

theorem zoneMove_lossless : Lossless zoneMove fun body => Width.fits 32 body.quantity = true := by
  refine .of_faithful (record_faithful (by decide) ⟨?_, ?_, ?_, ?_, trivial⟩ fun _ => rfl)
    fun body fits => record_recovers (by decide) rfl ⟨?_, ?_, ?_, ?_, trivial⟩
  · exact required_faithful uuid_faithful
  · exact required_faithful int32_faithful
  · exact required_faithful zone_faithful
  · exact required_faithful zone_faithful
  · exact required_returns (uuid_recovers body.card)
  · exact required_returns (int32_recovers fits)
  · exact required_returns (zone_recovers body.source)
  · exact required_returns (zone_recovers body.target)

theorem transfer_lossless : Lossless transfer fun body => Width.fits 32 body.quantity = true := by
  refine .of_faithful (record_faithful (by decide) ⟨?_, ?_, ?_, ?_, ?_, trivial⟩ fun _ => rfl)
    fun body fits => record_recovers (by decide) rfl ⟨?_, ?_, ?_, ?_, ?_, trivial⟩
  · exact required_faithful uuid_faithful
  · exact required_faithful uuid_faithful
  · exact required_faithful uuid_faithful
  · exact required_faithful int32_faithful
  · exact optional_faithful zone_solid zone_faithful
  · exact required_returns (uuid_recovers body.source)
  · exact required_returns (uuid_recovers body.destination)
  · exact required_returns (uuid_recovers body.card)
  · exact required_returns (int32_recovers fits)
  · exact optional_returns (nullable_recovers zone_solid fun zone _ => zone_recovers zone)

/-! ## Decks -/

/-- The capacity of a deck has 32 bits, and its times can be read. -/
structure SoundDeck (deck : Deck) : Prop where
  capacity : ∀ capacity, deck.capacity = some capacity → Width.fits 32 capacity = true
  createdAt : deck.createdAt.Valid
  updatedAt : deck.updatedAt.Valid

theorem uuid_keeping : Format.uuid.Keeping :=
  spelling_keeping fun _ id _ => id.parse?_text

theorem instant_keeping : Format.instant.Keeping :=
  spelling_keeping fun _ _ => Instant.parse?_text_of_parse?

theorem deckFields_keeping : deckFields.Keeping := by
  refine ⟨?_, ?_, ?_, ?_, ?_, ?_, ?_, ?_, trivial⟩
  · exact required_keeping uuid_keeping
  · exact required_keeping uuid_keeping
  · exact required_keeping text_keeping
  · exact required_keeping text_keeping
  · exact optional_keeping int32_solid (integer_keeping (by decide) (by decide))
  · exact optional_keeping text_solid text_keeping
  · exact required_keeping instant_keeping
  · exact required_keeping instant_keeping

theorem rowOfDeck_keeps {deck : Deck} (sound : SoundDeck deck) :
    deckFields.Returns @Format.Keeps (rowOfDeck deck) := by
  refine ⟨?_, ?_, ?_, ?_, ?_, ?_, ?_, ?_, trivial⟩
  · exact required_returns (spelling_keeps deck.id.parse?_text)
  · exact required_returns (spelling_keeps deck.owner.parse?_text)
  · exact required_returns (text_keeps deck.name)
  · exact required_returns (text_keeps deck.format)
  · exact optional_returns (nullable_keeps int32_solid fun capacity same =>
      integer_keeps (by decide) (by decide) (within_of_fits (sound.capacity capacity same)))
  · exact optional_returns (nullable_keeps text_solid fun notes _ => text_keeps notes)
  · exact required_returns (spelling_keeps sound.createdAt.parse?_text)
  · exact required_returns (spelling_keeps sound.updatedAt.parse?_text)

theorem deckSummary_lossless :
    Lossless deckSummary fun summary =>
      SoundDeck summary.deck ∧ Width.fits 64 summary.cardCount = true := by
  refine .of_faithful (flattened_faithful (by decide) (by decide) (by decide) deckFields_keeping
    ⟨?_, trivial⟩ fun _ _ => rfl) fun summary sound => flattened_recovers (by decide)
      (by decide) (by decide) rfl (rowOfDeck_keeps sound.1) ⟨?_, trivial⟩
  · exact required_faithful (integer_faithful (by decide) (by decide))
  · exact required_returns (int64_recovers sound.2)

theorem deckEntry_faithful : deckEntry.Faithful := by
  refine record_faithful (by decide) ⟨?_, ?_, ?_, trivial⟩ fun _ => rfl
  · exact required_faithful uuid_faithful
  · exact required_faithful zone_faithful
  · exact required_faithful int32_faithful

theorem deckEntry_recovers {entry : EntryBody} (fits : Width.fits 32 entry.quantity = true) :
    deckEntry.Recovers entry := by
  refine record_recovers (by decide) rfl ⟨?_, ?_, ?_, trivial⟩
  · exact required_returns (uuid_recovers entry.card)
  · exact required_returns (zone_recovers entry.zone)
  · exact required_returns (int32_recovers fits)

theorem deckDetail_lossless :
    Lossless deckDetail fun detail => SoundDeck detail.deck ∧
      ∀ entry ∈ detail.entries, Width.fits 32 entry.quantity = true := by
  refine .of_faithful (flattened_faithful (by decide) (by decide) (by decide) deckFields_keeping
    ⟨?_, trivial⟩ fun _ _ => rfl) fun detail sound => flattened_recovers (by decide)
      (by decide) (by decide) rfl (rowOfDeck_keeps sound.1) ⟨?_, trivial⟩
  · exact required_faithful (list_faithful record_solid deckEntry_faithful)
  · exact required_returns (list_recovers record_solid fun entry member =>
      deckEntry_recovers (sound.2 entry member))

/-- What a client sends and what it learns about decks is read back from its own text. -/
theorem bodies_lossless :
    Lossless userDraft (fun _ => True) ∧
    Lossless deckProposal (fun deck =>
      ∀ capacity, deck.capacity = some capacity → Width.fits 32 capacity = true) ∧
    Lossless deckPatch (fun patch =>
      ∀ capacity, patch.capacity = some (some capacity) → Width.fits 32 capacity = true) ∧
    Lossless quantityChange (fun change => Width.fits 32 change.quantity = true) ∧
    Lossless allocation (fun body => Width.fits 32 body.quantity = true) ∧
    Lossless deallocation (fun body => Width.fits 32 body.quantity = true) ∧
    Lossless zoneMove (fun body => Width.fits 32 body.quantity = true) ∧
    Lossless transfer (fun body => Width.fits 32 body.quantity = true) ∧
    Lossless deckSummary (fun summary =>
      SoundDeck summary.deck ∧ Width.fits 64 summary.cardCount = true) ∧
    Lossless deckDetail (fun detail => SoundDeck detail.deck ∧
      ∀ entry ∈ detail.entries, Width.fits 32 entry.quantity = true) :=
  ⟨userDraft_lossless, deckProposal_lossless, deckPatch_lossless, quantityChange_lossless,
    allocation_lossless, deallocation_lossless, zoneMove_lossless, transfer_lossless,
    deckSummary_lossless, deckDetail_lossless⟩

end CardInventory.Api
