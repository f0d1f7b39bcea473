import CardInventory.Proofs.Text.Utf8
import CardInventory.Text.Offset

/-!
# Places in a text and their offsets

Where a word of seven-bit characters stands among the bytes of a text, it stands among
its characters: no byte of a longer character is one of the word's. So an offset at which
such a word is found lies between characters, and between two such offsets there is a part
of the text.
-/

namespace CardInventory.Text

/-! ## Words among bytes -/

theorem offset?_eq_some_iff {word bytes : Bytes} {offset : Nat} :
    offset? word bytes = some offset ↔
      (offset ≤ bytes.length ∧ word <+: bytes.drop offset) ∧
        ∀ earlier < offset, ¬ word <+: bytes.drop earlier := by
  induction bytes generalizing offset with
  | nil =>
      cases word with
      | nil => cases offset <;> simp [offset?]
      | cons byte word => simp [offset?]
  | cons byte rest ih =>
      rw [offset?]
      by_cases here : word <+: byte :: rest
      · rw [if_pos (List.isPrefixOf_iff_prefix.mpr here), Option.some_inj]
        constructor
        · rintro rfl
          exact ⟨⟨Nat.zero_le _, here⟩, fun _ earlier => absurd earlier (Nat.not_lt_zero _)⟩
        · rintro ⟨-, first⟩
          cases offset with
          | zero => rfl
          | succ offset => exact absurd here (first 0 (Nat.succ_pos offset))
      · rw [if_neg (mt List.isPrefixOf_iff_prefix.mp here)]
        cases offset with
        | zero => simp [here]
        | succ offset =>
            simp only [Option.map_eq_some_iff, Nat.add_right_cancel_iff, exists_eq_right, ih,
              List.length_cons, Nat.add_le_add_iff_right, List.drop_succ_cons, and_congr_right_iff]
            rintro -
            constructor
            · rintro first (_ | earlier) before
              · exact here
              · exact first earlier (Nat.lt_of_succ_lt_succ before)
            · intro first earlier before
              exact first (earlier + 1) (Nat.succ_lt_succ before)

/-! ## Words among characters -/

/-- Characters of seven bits. -/
def Plain (word : List Char) : Prop :=
  ∀ c ∈ word, c.toNat < 0x80

variable {word cs : List Char}

theorem encode_plain_cons {c : Char} (plain : Plain (c :: word)) :
    encode (c :: word) = UInt8.ofNat c.toNat :: encode word := by
  rw [encode_cons, utf8EncodeChar_of_lt (plain c List.mem_cons_self), List.singleton_append]

/-- The byte of a seven-bit character is in no other character's spelling. -/
theorem eq_of_mem_utf8EncodeChar {c d : Char} (plain : c.toNat < 0x80)
    (member : UInt8.ofNat c.toNat ∈ String.utf8EncodeChar d) : d = c := by
  have code : (UInt8.ofNat c.toNat).toNat = c.toNat := Utf8.toNat_ofNat (by omega)
  rcases mem_utf8EncodeChar member with ⟨small, same⟩ | beyond
  · have other : (UInt8.ofNat d.toNat).toNat = d.toNat := Utf8.toNat_ofNat (by omega)
    exact Char.toNat_inj.mp (by rw [← code, same, other])
  · omega

/-- What begins with the bytes of a seven-bit word begins with the word. -/
theorem exists_of_encode_eq_append (plain : Plain word) {bytes : Bytes}
    (same : encode cs = encode word ++ bytes) :
    ∃ back, cs = word ++ back ∧ encode back = bytes := by
  induction word generalizing cs with
  | nil => exact ⟨cs, rfl, same⟩
  | cons c word ih =>
      rw [encode_plain_cons plain, List.cons_append] at same
      cases cs with
      | nil => cases same
      | cons d rest =>
          rw [encode_cons] at same
          have small := plain c List.mem_cons_self
          obtain ⟨byte, more, spelled⟩ :=
            List.exists_cons_of_ne_nil (String.utf8EncodeChar_ne_nil (c := d))
          rw [spelled, List.cons_append, List.cons_eq_cons] at same
          obtain rfl : d = c :=
            eq_of_mem_utf8EncodeChar small (by rw [spelled, same.1]; exact List.mem_cons_self)
          rw [utf8EncodeChar_of_lt small, List.cons_eq_cons] at spelled
          obtain ⟨back, rfl, rfl⟩ := ih (fun c member => plain c (List.mem_cons_of_mem _ member))
            (by rw [← same.2, ← spelled.2, List.nil_append])
          exact ⟨back, rfl, rfl⟩

/-- Where the bytes of a seven-bit word stand among those of a text, the word stands in the
text. -/
theorem exists_of_encode_eq (plain : Plain word) (nonempty : word ≠ []) {before after : Bytes}
    (same : encode cs = before ++ (encode word ++ after)) :
    ∃ front back, cs = front ++ (word ++ back) ∧ encode front = before ∧ encode back = after := by
  induction cs generalizing before with
  | nil =>
      obtain ⟨c, rest, rfl⟩ := List.exists_cons_of_ne_nil nonempty
      rw [encode_plain_cons plain] at same
      simp at same
  | cons d cs ih =>
      rw [encode_cons] at same
      rcases List.append_eq_append_iff.mp same with ⟨inner, rfl, tail⟩ | ⟨inner, spelled, tail⟩
      · obtain ⟨front, back, rfl, rfl, rfl⟩ := ih tail
        exact ⟨d :: front, back, rfl, rfl, rfl⟩
      · cases inner with
        | nil =>
            have onward : encode cs = [] ++ (encode word ++ after) := tail.symm
            obtain ⟨front, back, rfl, head, rfl⟩ := ih onward
            exact ⟨d :: front, back, rfl, by simp [encode_cons, head, spelled], rfl⟩
        | cons byte inner =>
            -- The word begins with a byte of this character, which then has no other.
            obtain ⟨c, rest, rfl⟩ := List.exists_cons_of_ne_nil nonempty
            have small := plain c List.mem_cons_self
            have first := encode_plain_cons plain ▸ tail
            rw [List.cons_append, List.cons_append, List.cons_eq_cons] at first
            obtain rfl : d = c :=
              eq_of_mem_utf8EncodeChar small (by rw [spelled, first.1]; simp)
            rw [utf8EncodeChar_of_lt small] at spelled
            obtain ⟨rfl, -⟩ : before = [] ∧ inner = [] := by
              rcases before with _ | ⟨_, _ | _⟩ <;> simp_all
            obtain ⟨back, whole, rfl⟩ := exists_of_encode_eq_append plain (encode_cons d cs ▸ same)
            exact ⟨[], back, whole, rfl, rfl⟩

/-- A seven-bit word is found at the offset of its first place in a text. -/
theorem offset?_encode_eq_some_iff (plain : Plain word) (nonempty : word ≠ []) {offset : Nat} :
    offset? (encode word) (encode cs) = some offset ↔
      ∃ front back, cs = front ++ (word ++ back) ∧ offset = (encode front).length ∧
        ∀ front' back', cs = front' ++ (word ++ back') →
          (encode front).length ≤ (encode front').length := by
  rw [offset?_eq_some_iff]
  constructor
  · rintro ⟨⟨within, after, found⟩, first⟩
    have split : encode cs = (encode cs).take offset ++ (encode word ++ after) := by
      rw [found, List.take_append_drop]
    obtain ⟨front, back, rfl, before, rfl⟩ := exists_of_encode_eq plain nonempty split
    have length := congrArg List.length before
    rw [List.length_take, Nat.min_eq_left within] at length
    refine ⟨front, back, rfl, length.symm, fun front' back' other => ?_⟩
    refine Nat.le_of_not_lt fun earlier => first _ (length ▸ earlier) ?_
    rw [other, encode_append, encode_append, List.drop_left]
    exact List.prefix_append _ _
  · rintro ⟨front, back, rfl, rfl, first⟩
    rw [encode_append, encode_append, List.drop_left, List.length_append]
    refine ⟨⟨Nat.le_add_right _ _, List.prefix_append _ _⟩, ?_⟩
    rintro earlier before ⟨after, found⟩
    rw [← encode_append, ← encode_append] at found
    have split : encode (front ++ (word ++ back)) =
        (encode (front ++ (word ++ back))).take earlier ++ (encode word ++ after) := by
      rw [found, List.take_append_drop]
    obtain ⟨front', back', same, begun, -⟩ := exists_of_encode_eq plain nonempty split
    have bound := first front' back' same
    rw [begun, List.length_take] at bound
    omega

/-! ## First places -/

section First

variable {front front' back back' : List Char} {c d : Char}

/-- The first place of a character is where it is not in front. -/
theorem encode_length_le_of_notMem (missing : c ∉ front)
    (same : front ++ c :: back = front' ++ c :: back') :
    (encode front).length ≤ (encode front').length := by
  rcases List.append_eq_append_iff.mp same with ⟨inner, rfl, -⟩ | ⟨inner, rfl, tail⟩
  · simp
  · cases inner with
    | nil => simp
    | cons head inner =>
        obtain ⟨rfl, -⟩ := List.cons_eq_cons.mp tail
        simp at missing

/-- The first place of two different characters is where they are not in front. -/
theorem encode_length_le_of_not_infix (distinct : c ≠ d) (missing : ¬ [c, d] <:+: front)
    (same : front ++ c :: d :: back = front' ++ c :: d :: back') :
    (encode front).length ≤ (encode front').length := by
  rcases List.append_eq_append_iff.mp same with ⟨inner, rfl, -⟩ | ⟨inner, rfl, tail⟩
  · simp
  · rcases inner with _ | ⟨head, _ | ⟨next, inner⟩⟩
    · simp
    · -- The second character would stand where the first one stands.
      simp [distinct.symm] at tail
    · obtain ⟨rfl, rest⟩ := List.cons_eq_cons.mp tail
      obtain ⟨rfl, -⟩ := List.cons_eq_cons.mp rest
      exact absurd ⟨front', inner, by simp⟩ missing

theorem notMem_of_first
    (first : ∀ front' back', front ++ c :: back = front' ++ c :: back' →
      (encode front).length ≤ (encode front').length) : c ∉ front := by
  intro member
  obtain ⟨init, rest, rfl⟩ := List.append_of_mem member
  have bound := first init (rest ++ c :: back) (by simp)
  rw [encode_append, encode_cons, List.length_append, List.length_append] at bound
  have positive : 0 < (String.utf8EncodeChar c).length :=
    List.length_pos_iff.mpr String.utf8EncodeChar_ne_nil
  omega

end First

/-! ## Parts of a text -/

section Parts

variable {text : String} {front part back : List Char}

theorem utf8ByteSize_ofList (cs : List Char) :
    (String.ofList cs).utf8ByteSize = (encode cs).length := by
  rw [← bytesOf_ofList, bytesOf, String.toUTF8_eq_toByteArray, ByteArray.toList, toList_loop]
  simp [String.utf8ByteSize]

/-- What stands in front of some characters of a text ends between characters. -/
theorem isValid_encode (whole : text.toList = front ++ back) :
    String.Pos.Raw.IsValid text ⟨(encode front).length⟩ := by
  refine String.Pos.Raw.isValid_iff_exists_append.mpr
    ⟨String.ofList front, String.ofList back, ?_, ?_⟩
  · rw [← String.ofList_append, ← whole, String.ofList_toList]
  · rw [String.rawEndPos, utf8ByteSize_ofList]

theorem pos?_of_isValid {offset : String.Pos.Raw} (valid : offset.IsValid text) :
    text.pos? offset = some (text.pos offset valid) := by
  have sliced : offset.isValidForSlice text.toSlice = true :=
    String.Pos.Raw.isValidForSlice_eq_true_iff.mpr valid.toSlice
  rw [String.pos?, String.Slice.pos?, dif_pos sliced, Option.map_some, String.pos]

theorem extract_middle (a b c : ByteArray) :
    (a ++ (b ++ c)).extract a.size (a.size + b.size) = b := by
  have inner : (a ++ (b ++ c)).extract (a.size + 0) (a.size + b.size) = (b ++ c).extract 0 b.size :=
    ByteArray.extract_append_size_add
  rw [Nat.add_zero] at inner
  exact inner.trans (ByteArray.extract_append_eq_left rfl)

/-- Between the offsets of its ends a part of a text is found. -/
theorem between?_encode (whole : text.toList = front ++ (part ++ back)) :
    between? text (encode front).length (encode (front ++ part)).length =
      some (String.ofList part) := by
  have start := isValid_encode whole
  have stop := isValid_encode (whole.trans (List.append_assoc front part back).symm)
  have ordered : text.pos _ start ≤ text.pos _ stop := by
    simp [String.Pos.le_iff, String.Pos.Raw.le_iff]
  have bytes : text.toByteArray =
      (String.ofList front).toByteArray ++
        ((String.ofList part).toByteArray ++ (String.ofList back).toByteArray) := by
    rw [← String.toByteArray_append, ← String.toByteArray_append, ← String.ofList_append,
      ← String.ofList_append, ← whole, String.ofList_toList]
  have sizes (cs : List Char) : (String.ofList cs).toByteArray.size = (encode cs).length :=
    utf8ByteSize_ofList cs
  simp only [between?, pos?_of_isValid start, pos?_of_isValid stop, bind, Option.bind,
    if_pos ordered, Option.some_inj]
  rw [← String.toByteArray_inj, String.toByteArray_extract, String.offset_pos, String.offset_pos,
    bytes, encode_append, List.length_append, ← sizes, ← sizes]
  exact extract_middle _ _ _

end Parts

end CardInventory.Text
