import CardInventory.Proofs.Text.Utf8
import Mathlib.Tactic.ByContra
import Mathlib.Tactic.SplitIfs

/-!
# The order of texts

Texts are ordered as their characters are, and these by code point. The bytes of a text
are in the same order: of two characters the one that comes first has the lesser byte
where the bytes of the two first differ.
-/

namespace CardInventory.Text

/-- Bytes are ordered by the first of them unless they agree in it. -/
theorem ofNat_cons_lt {low high : Nat} {front back : Bytes} (ordered : low ≤ high)
    (small : high < 256) (later : low = high → front < back) :
    UInt8.ofNat low :: front < UInt8.ofNat high :: back := by
  rw [List.cons_lt_cons_iff]
  rcases Nat.lt_or_eq_of_le ordered with before | same
  · refine .inl ?_
    rw [UInt8.lt_iff_toNat_lt, Utf8.toNat_ofNat small, Utf8.toNat_ofNat (by omega)]
    exact before
  · exact .inr ⟨congrArg UInt8.ofNat same, later same⟩

/-- Of two characters the one that comes first has the lesser bytes, whatever follows them. -/
theorem utf8EncodeChar_append_lt {c d : Char} (before : c < d) (front back : Bytes) :
    String.utf8EncodeChar c ++ front < String.utf8EncodeChar d ++ back := by
  have codes : c.val.toNat < d.val.toNat := before
  have last : d.val.toNat < 0x110000 := by
    rcases d.valid with low | high
    · exact Nat.lt_trans low (by decide)
    · exact high.2
  unfold String.utf8EncodeChar
  generalize c.val.toNat = low at codes ⊢
  generalize d.val.toNat = high at codes last ⊢
  dsimp only
  split_ifs
  all_goals try omega
  all_goals
    simp only [List.cons_append, List.nil_append]
    -- A character of more bytes has a greater first byte, so that only characters of equally
    -- many bytes can agree in it, and then their further bytes decide.
    repeat refine ofNat_cons_lt (by omega) (by omega) fun same => ?_
    omega

theorem encode_lt_of_lt {left right : List Char} (before : left < right) :
    encode left < encode right := by
  induction left generalizing right with
  | nil =>
      cases right with
      | nil => exact absurd before (List.lt_irrefl [])
      | cons d right =>
          rw [encode_nil, encode_cons]
          cases bytes : String.utf8EncodeChar d with
          | nil => exact absurd bytes (String.utf8EncodeChar_ne_nil)
          | cons byte rest => exact List.nil_lt_cons byte _
  | cons c left ih =>
      cases right with
      | nil => exact absurd before (List.not_lt_nil _)
      | cons d right =>
          rw [encode_cons, encode_cons]
          rcases List.cons_lt_cons_iff.mp before with first | ⟨rfl, later⟩
          · exact utf8EncodeChar_append_lt first _ _
          · exact List.append_left_lt (ih later)

/-- A text comes before another just where its bytes come before those of the other. -/
theorem bytesOf_lt_iff {left right : String} : bytesOf left < bytesOf right ↔ left < right := by
  rw [bytesOf_eq_encode, bytesOf_eq_encode]
  constructor
  · intro before
    by_contra notBefore
    have late : ¬ left.toList < right.toList := notBefore
    rcases List.le_iff_lt_or_eq.mp (List.not_lt.mp late) with reversed | same
    · exact List.lt_asymm before (encode_lt_of_lt reversed)
    · exact List.lt_irrefl _ (same ▸ before)
  · exact encode_lt_of_lt

end CardInventory.Text
