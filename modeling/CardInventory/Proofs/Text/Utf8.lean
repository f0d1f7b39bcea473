import CardInventory.Text.Utf8

/-!
# Characters and their bytes

The bytes of a text are those of its characters one after another. To decode them
gives the characters back: a sequence of bytes that stands for a character is
well-formed, and it is finished where the next one begins.
-/

namespace CardInventory.Text

/-- The bytes of characters. -/
def encode (cs : List Char) : Bytes :=
  cs.flatMap String.utf8EncodeChar

@[simp]
theorem encode_nil : encode [] = [] :=
  rfl

theorem encode_cons (c : Char) (cs : List Char) :
    encode (c :: cs) = String.utf8EncodeChar c ++ encode cs :=
  rfl

@[simp]
theorem encode_append (left right : List Char) :
    encode (left ++ right) = encode left ++ encode right :=
  List.flatMap_append

theorem toList_loop (bytes : ByteArray) (position : Nat) (taken : Bytes) :
    ByteArray.toList.loop bytes position taken =
      taken.reverse ++ bytes.data.toList.drop position := by
  fun_induction ByteArray.toList.loop bytes position taken with
  | case1 position taken inside ih =>
      have bound : position < bytes.data.toList.length := by simpa using inside
      have next : bytes.get! position = bytes.data.toList[position] := by
        simp [ByteArray.get!, inside]
      rw [ih, List.drop_eq_getElem_cons bound, next]
      simp
  | case2 position taken outside =>
      have past : bytes.data.toList.length ≤ position := by simpa using outside
      rw [List.drop_eq_nil_of_le past, List.append_nil]

theorem toList_toByteArray (bytes : Bytes) : bytes.toByteArray.toList = bytes := by
  rw [ByteArray.toList, toList_loop]
  simp

theorem bytesOf_ofList (cs : List Char) : bytesOf (String.ofList cs) = encode cs := by
  rw [bytesOf, String.toUTF8_eq_toByteArray, String.toByteArray_ofList, List.utf8Encode,
    toList_toByteArray, encode]

theorem bytesOf_eq_encode (text : String) : bytesOf text = encode text.toList := by
  rw [← bytesOf_ofList, String.ofList_toList]

theorem toNat_of_isDigit {c : Char} (digit : c.isDigit = true) :
    0x30 ≤ c.toNat ∧ c.toNat ≤ 0x39 := by
  simp only [Char.isDigit, Bool.and_eq_true, decide_eq_true_eq] at digit
  exact digit

/-- A character of seven bits is one byte. -/
theorem utf8EncodeChar_of_lt {c : Char} (small : c.toNat < 0x80) :
    String.utf8EncodeChar c = [UInt8.ofNat c.toNat] := by
  have least : c.val.toNat ≤ 0x7f := Nat.le_of_lt_succ small
  simp only [String.utf8EncodeChar, if_pos least]
  rfl

/-- A character is spelled by a byte of its own, or by bytes beyond seven bits. -/
theorem mem_utf8EncodeChar {c : Char} {byte : UInt8} (member : byte ∈ String.utf8EncodeChar c) :
    (c.toNat < 0x80 ∧ byte = UInt8.ofNat c.toNat) ∨ 0x80 ≤ byte.toNat := by
  by_cases small : c.toNat < 0x80
  · rw [utf8EncodeChar_of_lt small] at member
    exact .inl ⟨small, List.mem_singleton.mp member⟩
  · have valid : c.val.toNat < 0xD800 ∨ 0xDFFF < c.val.toNat ∧ c.val.toNat < 0x110000 := c.valid
    have large : ¬ c.val.toNat ≤ 0x7F := fun least => small (Nat.lt_succ_of_le least)
    simp only [String.utf8EncodeChar, if_neg large] at member
    generalize c.val.toNat = code at valid member
    have beyond : ∀ value, 0x80 ≤ value → value < 256 → 0x80 ≤ (UInt8.ofNat value).toNat :=
      fun value low high => by rwa [UInt8.toNat_ofNat_of_lt' high]
    right
    split at member
    · simp only [List.mem_cons, List.not_mem_nil, or_false] at member
      rcases member with rfl | rfl <;> exact beyond _ (by omega) (by omega)
    split at member
    · simp only [List.mem_cons, List.not_mem_nil, or_false] at member
      rcases member with rfl | rfl | rfl <;> exact beyond _ (by omega) (by omega)
    · simp only [List.mem_cons, List.not_mem_nil, or_false] at member
      rcases member with rfl | rfl | rfl | rfl <;> exact beyond _ (by omega) (by omega)

namespace Utf8

section Steps

theorem toNat_ofNat {value : Nat} (small : value < 256) : (UInt8.ofNat value).toNat = value :=
  UInt8.toNat_ofNat_of_lt' small

variable {low high left code value : Nat} (rest : Bytes)

/-- The last byte of a sequence finishes its character. -/
theorem decode_last (inside : low ≤ value ∧ value ≤ high) (small : value < 256) :
    decode (some ⟨low, high, 1, code⟩) (UInt8.ofNat value :: rest) =
      some (Char.ofNat (code * 64 + (value - 0x80))) :: decode none rest := by
  simp only [decode, toNat_ofNat small, if_pos inside, Nat.le_refl, if_true]

/-- A byte before the last one adds six bits. -/
theorem decode_next (inside : low ≤ value ∧ value ≤ high) (small : value < 256)
    (more : 1 < left) :
    decode (some ⟨low, high, left, code⟩) (UInt8.ofNat value :: rest) =
      decode (some ⟨0x80, 0xBF, left - 1, code * 64 + (value - 0x80)⟩) rest := by
  simp only [decode, toNat_ofNat small, if_pos inside, if_neg (Nat.not_le.mpr more)]

theorem decode_opens {pending : Pending} (opens : lead (UInt8.ofNat value) = .opens pending) :
    decode none (UInt8.ofNat value :: rest) = decode (some pending) rest := by
  simp only [decode, opens]

end Steps

/-- The bytes of a character are decoded to it, whatever follows. -/
theorem decode_utf8EncodeChar (c : Char) (rest : Bytes) :
    decode none (String.utf8EncodeChar c ++ rest) = some c :: decode none rest := by
  have valid : c.val.toNat < 0xD800 ∨ 0xDFFF < c.val.toNat ∧ c.val.toNat < 0x110000 := c.valid
  have same : Char.ofNat c.val.toNat = c := Char.ofNat_toNat c
  unfold String.utf8EncodeChar
  generalize c.val.toNat = code at valid same
  dsimp only
  split
  · rename_i one
    have single : lead (UInt8.ofNat code) = .single c := by
      simp only [lead, toNat_ofNat (show code < 256 by omega)]
      rw [if_pos (by omega), same]
    simp only [List.singleton_append, decode, single]
  split
  · have opens : lead (UInt8.ofNat (code / 64 % 0x20 + 0xC0)) =
        .opens ⟨0x80, 0xBF, 1, code / 64⟩ := by
      have first : code / 64 % 0x20 = code / 64 := by omega
      simp only [lead, first, toNat_ofNat (show code / 64 + 0xC0 < 256 by omega)]
      rw [if_neg (by omega), if_pos (by omega), Nat.add_sub_cancel]
    have assembled : code / 64 * 64 + (code % 0x40 + 0x80 - 0x80) = code := by omega
    simp only [List.cons_append, List.nil_append]
    rw [decode_opens _ opens, decode_last _ (by omega) (by omega), assembled, same]
  split
  · obtain ⟨low, high, opens, inside⟩ : ∃ low high,
        lead (UInt8.ofNat (code / 4096 % 0x10 + 0xE0)) = .opens ⟨low, high, 2, code / 4096⟩ ∧
          low ≤ code / 64 % 0x40 + 0x80 ∧ code / 64 % 0x40 + 0x80 ≤ high := by
      have first : code / 4096 % 0x10 = code / 4096 := by omega
      simp only [lead, first, toNat_ofNat (show code / 4096 + 0xE0 < 256 by omega)]
      rw [if_neg (by omega), if_neg (by omega)]
      -- The second byte excludes what is spelled too long, and surrogates.
      split
      · exact ⟨_, _, by rw [Nat.add_sub_cancel], by omega⟩
      split
      · exact ⟨_, _, by rw [Nat.add_sub_cancel], by omega⟩
      · rw [if_pos (by omega)]
        exact ⟨_, _, by rw [Nat.add_sub_cancel], by omega⟩
    have assembled : (code / 4096 * 64 + (code / 64 % 0x40 + 0x80 - 0x80)) * 64 +
        (code % 0x40 + 0x80 - 0x80) = code := by omega
    simp only [List.cons_append, List.nil_append]
    rw [decode_opens _ opens, decode_next _ inside (by omega) (by omega),
      decode_last _ (by omega) (by omega), assembled, same]
  · obtain ⟨low, high, opens, inside⟩ : ∃ low high,
        lead (UInt8.ofNat (code / 262144 % 0x08 + 0xF0)) = .opens ⟨low, high, 3, code / 262144⟩ ∧
          low ≤ code / 4096 % 0x40 + 0x80 ∧ code / 4096 % 0x40 + 0x80 ≤ high := by
      have first : code / 262144 % 0x08 = code / 262144 := by omega
      simp only [lead, first, toNat_ofNat (show code / 262144 + 0xF0 < 256 by omega)]
      rw [if_neg (by omega), if_neg (by omega), if_neg (by omega), if_neg (by omega),
        if_neg (by omega)]
      -- The second byte excludes what is spelled too long, and what lies beyond the last plane.
      split
      · exact ⟨_, _, by rw [Nat.add_sub_cancel], by omega⟩
      split
      · exact ⟨_, _, by rw [Nat.add_sub_cancel], by omega⟩
      · rw [if_pos (by omega)]
        exact ⟨_, _, by rw [Nat.add_sub_cancel], by omega⟩
    have assembled : ((code / 262144 * 64 + (code / 4096 % 0x40 + 0x80 - 0x80)) * 64 +
        (code / 64 % 0x40 + 0x80 - 0x80)) * 64 + (code % 0x40 + 0x80 - 0x80) = code := by omega
    simp only [List.cons_append, List.nil_append]
    rw [decode_opens _ opens, decode_next _ inside (by omega) (by omega),
      decode_next _ (by omega) (by omega) (by omega), decode_last _ (by omega) (by omega),
      assembled, same]

theorem decode_encode (cs : List Char) : decode none (encode cs) = cs.map some := by
  induction cs with
  | nil => rfl
  | cons c rest ih => rw [encode_cons, decode_utf8EncodeChar, ih, List.map_cons]

end Utf8

/-- The bytes of a text are well-formed, and spell it. -/
theorem decodeStrict_bytesOf (text : String) : decodeStrict (bytesOf text) = some text := by
  have characters : ∀ cs : List Char, (cs.map some).mapM id = some cs := by
    intro cs
    induction cs with
    | nil => rfl
    | cons c rest ih => simp [ih]
  rw [decodeStrict, bytesOf_eq_encode, Utf8.decode_encode, characters]
  simp

end CardInventory.Text
