import CardInventory.Uuid
import Mathlib.Data.List.TakeDrop
import Mathlib.Tactic.IntervalCases

/-!
# Texts of identifiers

The canonical text of an identifier spells it: the digits are those of its number in
base sixteen, as many as all identifiers have, and the hyphens stand where they are
looked for. Two identifiers therefore never share a text.
-/

namespace CardInventory.Uuid

theorem length_hexDigits (width number : Nat) : (hexDigits width number).length = width := by
  induction width generalizing number with
  | zero => rfl
  | succ width ih => simp [hexDigits, ih]

theorem digit?_digitChar {value : Nat} (small : value < 16) :
    digit? (Nat.digitChar value) = some value := by
  interval_cases value <;> rfl

/-- The last digits of a number spell what is left of it below a power of sixteen. -/
theorem mapM_hexDigits (width number : Nat) :
    ∃ values, (hexDigits width number).mapM digit? = some values ∧
      values.foldl (fun number value => number * 16 + value) 0 = number % 16 ^ width := by
  induction width generalizing number with
  | zero => exact ⟨[], rfl, by simp [Nat.mod_one]⟩
  | succ width ih =>
      obtain ⟨values, read, spelt⟩ := ih (number / 16)
      have last : digit? (Nat.digitChar (number % 16)) = some (number % 16) :=
        digit?_digitChar (Nat.mod_lt _ (by decide))
      refine ⟨values ++ [number % 16], ?_, ?_⟩
      · simp [hexDigits, read, last]
      · rw [List.foldl_append, spelt, List.foldl_cons, List.foldl_nil, Nat.pow_succ',
          Nat.mod_mul]
        omega

theorem ofDigits?_hexDigits (id : Uuid) : ofDigits? (hexDigits 32 id.rank) = some id := by
  obtain ⟨values, read, spelt⟩ := mapM_hexDigits 32 id.rank
  have small : id.rank < 16 ^ 32 := id.bits.isLt
  rw [ofDigits?, if_pos (length_hexDigits 32 id.rank), read, Option.map_some, spelt,
    Nat.mod_eq_of_lt small]
  exact congrArg some (rank_injective (Nat.mod_eq_of_lt small))

/-- Hyphens between groups that are not cut short are found again. -/
theorem joinGroups?_hyphenate {widths : List Nat} {digits : List Char}
    (enough : widths.sum ≤ digits.length) :
    joinGroups? widths (hyphenate widths digits) = some digits := by
  induction widths generalizing digits with
  | nil => rfl
  | cons width rest ih =>
      cases rest with
      | nil => rfl
      | cons next rest =>
          rw [List.sum_cons] at enough
          have front : (digits.take width).length = width := List.length_take_of_le (by omega)
          have back : (next :: rest).sum ≤ (digits.drop width).length := by
            rw [List.length_drop]
            omega
          rw [hyphenate, joinGroups?, List.drop_left' front, List.take_left' front]
          · simp only [ih back, Option.map_some, List.take_append_drop]
          · exact nofun
          · exact nofun

theorem length_hyphenate (widths : List Nat) (digits : List Char) :
    (hyphenate widths digits).length = digits.length + (widths.length - 1) := by
  induction widths generalizing digits with
  | nil => rfl
  | cons width rest ih =>
      cases rest with
      | nil => rfl
      | cons next rest =>
          have cut : (digits.take width).length + (digits.drop width).length = digits.length := by
            rw [← List.length_append, List.take_append_drop]
          simp only [hyphenate, List.length_append, List.length_cons, ih] at cut ⊢
          omega

theorem length_chars (id : Uuid) : id.chars.length = 36 := by
  rw [chars, length_hyphenate, length_hexDigits]
  rfl

theorem mem_hexDigits {width number : Nat} {c : Char} (member : c ∈ hexDigits width number) :
    ∃ value < 16, c = Nat.digitChar value := by
  induction width generalizing number with
  | zero => cases member
  | succ width ih =>
      rcases List.mem_append.mp member with front | last
      · exact ih front
      · exact ⟨number % 16, Nat.mod_lt _ (by decide), List.mem_singleton.mp last⟩

theorem mem_hyphenate {widths : List Nat} {digits : List Char} {c : Char}
    (member : c ∈ hyphenate widths digits) : c = '-' ∨ c ∈ digits := by
  induction widths generalizing digits with
  | nil => exact .inr member
  | cons width rest ih =>
      cases rest with
      | nil => exact .inr member
      | cons next rest =>
          rw [hyphenate, List.mem_append, List.mem_cons] at member
          · rcases member with front | rfl | back
            · exact .inr (List.mem_of_mem_take front)
            · exact .inl rfl
            · exact (ih back).imp_right List.mem_of_mem_drop
          · exact nofun

/-- The text of an identifier has digits and hyphens only. -/
theorem mem_chars {id : Uuid} {c : Char} (member : c ∈ id.chars) :
    c = '-' ∨ ∃ value < 16, c = Nat.digitChar value :=
  (mem_hyphenate member).imp_right mem_hexDigits

theorem ofHyphenated?_chars (id : Uuid) : ofHyphenated? id.chars = some id := by
  have enough : groups.sum ≤ (hexDigits 32 id.rank).length := by
    rw [length_hexDigits]
    decide
  rw [ofHyphenated?, if_pos id.length_chars, chars, joinGroups?_hyphenate enough,
    Option.bind_some, ofDigits?_hexDigits]

/-- The canonical text of an identifier spells it. -/
theorem parse?_text (id : Uuid) : parse? id.text = some id := by
  rw [parse?, text, String.toList_ofList, ofChars?, if_neg (by rw [length_chars]; decide),
    if_pos id.length_chars, ofHyphenated?_chars]

theorem text_injective {left right : Uuid} (same : left.text = right.text) : left = right := by
  have spelt := parse?_text left
  rw [same, parse?_text] at spelt
  exact (Option.some.inj spelt).symm

end CardInventory.Uuid
