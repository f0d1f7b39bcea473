import CardInventory.Text.Blank
import Mathlib.Data.List.DropRight

/-!
# Trimmed texts

What is left of a text without its blank ends neither begins nor ends with a blank
character. It is trimmed already, and it is blank only where the text was.
-/

namespace CardInventory.Text

theorem trimFront_cons_eq_self_iff {c : Char} {cs : List Char} :
    trimFront (c :: cs) = c :: cs ↔ isBlank c = false := by
  simp [trimFront, List.dropWhile_eq_self_iff]

/-- The back is trimmed without touching a front that does not begin with a blank. -/
theorem trimFront_trimBack {cs : List Char} (trimmed : trimFront cs = cs) :
    trimFront (trimBack cs) = trimBack cs := by
  obtain ⟨dropped, split⟩ : trimBack cs <+: cs := List.rdropWhile_prefix isBlank cs
  rcases kept : trimBack cs with _ | ⟨c, rest⟩
  · rfl
  · rw [kept] at split
    subst split
    exact trimFront_cons_eq_self_iff.mpr (trimFront_cons_eq_self_iff.mp trimmed)

/-- What is kept of a text is trimmed already. -/
theorem trimChars_trimChars (cs : List Char) : trimChars (trimChars cs) = trimChars cs := by
  have front : trimFront (trimFront cs) = trimFront cs := List.dropWhile_idempotent isBlank cs
  rw [trimChars, trimChars, trimFront_trimBack front]
  exact List.rdropWhile_idempotent isBlank (trimFront cs)

theorem trim_trim (text : String) : trim (trim text) = trim text := by
  simp only [trim, String.toList_ofList, trimChars_trimChars]

/-- Trimming does not make a text blank. -/
theorem isBlankText_trim (text : String) : isBlankText (trim text) = isBlankText text := by
  rw [isBlankText, trim_trim, isBlankText]

end CardInventory.Text
