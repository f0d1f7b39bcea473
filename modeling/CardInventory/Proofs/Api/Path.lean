import CardInventory.Proofs.Api.Route
import CardInventory.Proofs.Text.Utf8
import CardInventory.Proofs.Uuid

/-!
# Paths with identifiers

A path that is put together from parts is cut into the same parts, and the text of an
identifier in it is understood as this identifier. Whatever is stored can therefore be
asked for: every binder, every card in it and every deck has a path of its own.
-/

namespace CardInventory.Text

variable {α : Type} [BEq α] [LawfulBEq α] {separator : α}

theorem splitAt_of_notMem {part : List α} (plain : separator ∉ part) :
    splitAt separator part = [part] := by
  induction part with
  | nil => rfl
  | cons item rest ih =>
      have other : (item == separator) = false :=
        beq_eq_false_iff_ne.mpr (List.ne_of_not_mem_cons plain).symm
      rw [splitAt, other, ih (List.not_mem_of_not_mem_cons plain)]
      rfl

theorem splitAt_append {part : List α} (plain : separator ∉ part) (rest : List α) :
    splitAt separator (part ++ separator :: rest) = part :: splitAt separator rest := by
  induction part with
  | nil => rw [List.nil_append, splitAt, if_pos (beq_self_eq_true separator)]
  | cons item part ih =>
      have other : (item == separator) = false :=
        beq_eq_false_iff_ne.mpr (List.ne_of_not_mem_cons plain).symm
      rw [List.cons_append, splitAt, other, ih (List.not_mem_of_not_mem_cons plain)]
      rfl

/-- Parts between separators are cut apart again. -/
theorem splitAt_intercalate {parts : List (List α)} (some : parts ≠ [])
    (plain : ∀ part ∈ parts, separator ∉ part) :
    splitAt separator ([separator].intercalate parts) = parts := by
  induction parts with
  | nil => exact absurd rfl some
  | cons part rest ih =>
      obtain ⟨first, others⟩ := List.forall_mem_cons.mp plain
      cases rest with
      | nil => rw [List.intercalate_singleton, splitAt_of_notMem first]
      | cons next rest =>
          rw [List.intercalate_cons_cons, List.append_assoc, List.singleton_append,
            splitAt_append first, ih (List.cons_ne_nil _ _) others]

omit [BEq α] [LawfulBEq α] in
/-- Bytes without a percent sign stand for themselves. -/
theorem percentDecode_of_notMem {bytes : Bytes} (plain : 0x25 ∉ bytes) :
    percentDecode bytes = bytes := by
  fun_induction percentDecode bytes with
  | case1 mark high low rest byte escaped ih =>
      have other : (mark == 0x25) = false :=
        beq_eq_false_iff_ne.mpr (List.ne_of_not_mem_cons plain).symm
      rw [escapedByte?, other] at escaped
      cases escaped
  | case2 mark high low rest escaped ih => rw [ih (List.not_mem_of_not_mem_cons plain)]
  | case3 byte rest short ih => rw [ih (List.not_mem_of_not_mem_cons plain)]
  | case4 => rfl

end CardInventory.Text

namespace CardInventory.Api

open Inventory Text

/-- The path of the given parts. -/
def pathOf (parts : List String) : String :=
  String.ofList (['/'].intercalate (parts.map String.toList))

theorem pathParts_pathOf {parts : List String} (some : parts ≠ [])
    (plain : ∀ part ∈ parts, '/' ∉ part.toList) : pathParts (pathOf parts) = parts := by
  rw [pathParts, pathOf, String.toList_ofList, splitAt_intercalate (by simpa using some)]
  · simp
  · simpa using plain

theorem slash_notMem_text (id : Uuid) : '/' ∉ id.text.toList := by
  rw [Uuid.text, String.toList_ofList]
  intro member
  rcases Uuid.mem_chars member with same | ⟨value, small, same⟩
  · cases same
  · exact absurd same ((show ∀ value < 16, '/' ≠ Nat.digitChar value by decide) value small)

/-- A place with the text of an identifier is understood as this identifier. -/
theorem pathId_text (id : Uuid) : pathId id.text = .ok id := by
  have plain : 0x25 ∉ bytesOf id.text := by
    rw [bytesOf_eq_encode, Uuid.text, String.toList_ofList, encode, List.mem_flatMap]
    rintro ⟨c, member, byte⟩
    rcases Uuid.mem_chars member with rfl | ⟨value, small, rfl⟩
    · exact absurd byte (by decide)
    · exact (show ∀ value < 16, 0x25 ∉ String.utf8EncodeChar (Nat.digitChar value) by decide)
        value small byte
  rw [pathId, percentDecode_of_notMem plain, decodeStrict_bytesOf, Option.bind_some,
    Uuid.parse?_text]

theorem isEmpty_text (id : Uuid) : id.text.isEmpty = false := by
  refine Bool.eq_false_iff.mpr fun empty => ?_
  have length := id.length_chars
  rw [String.isEmpty_iff, Uuid.text, String.ofList_eq_empty_iff] at empty
  rw [empty] at length
  cases length

/-- A request that reads what lies under a path. -/
def reading (parts : List String) : Request :=
  ⟨"GET", pathOf (basePath ++ parts), none, [], []⟩

theorem Endpoint.accepts_reading {endpoint : Endpoint} (listed : endpoint ∈ endpoints)
    (reads : endpoint.method = "GET") {parts places : List String} {task : Task}
    (plain : ∀ part ∈ parts, '/' ∉ part.toList)
    (matched : matchPath? endpoint.path parts = some places)
    (handled : endpoint.handle places (reading parts) = .ok task) :
    endpoint.Accepts (reading parts) task := by
  have cut : pathParts (reading parts).path = basePath ++ parts :=
    pathParts_pathOf (List.append_ne_nil_of_left_ne_nil (by decide) _)
      (List.forall_mem_append.mpr ⟨by decide, plain⟩)
  exact ⟨places, mem_candidates listed cut matched, reads, handled⟩

/-- The copies of any card in any binder can be asked for. -/
theorem showQuantity_accepts (user card : Uuid) :
    Endpoint.showQuantity.Accepts (reading ["users", user.text, "binder", card.text])
      ⟨.binderQuantity user card,
        fun quantity => respondWith 200 (binderQuantity user card quantity)⟩ := by
  refine Endpoint.accepts_reading (by simp [endpoints]) rfl ?_
    (show _ = some [user.text, card.text] from ?_) ?_
  · simp [slash_notMem_text]
  · simp [Endpoint.showQuantity, matchPath?, isEmpty_text]
  · simp only [Endpoint.showQuantity, withIds, pathId_text]
    rfl

/-- Any deck can be asked for. -/
theorem getDeck_accepts (deck : Uuid) :
    Endpoint.getDeck.Accepts (reading ["decks", deck.text])
      ⟨.getDeck deck, fun detail => respondWith 200 (deckDetail.toTree (.ofDetail detail))⟩ := by
  refine Endpoint.accepts_reading (by simp [endpoints]) rfl ?_
    (show _ = some [deck.text] from ?_) ?_
  · simp [slash_notMem_text]
  · simp [Endpoint.getDeck, matchPath?, isEmpty_text]
  · simp only [Endpoint.getDeck, withId, pathId_text]
    rfl

end CardInventory.Api
