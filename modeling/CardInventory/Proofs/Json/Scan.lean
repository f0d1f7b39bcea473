import CardInventory.Json.Format
import CardInventory.Json.Writer
import CardInventory.Proofs.Text.Utf8

/-!
# Reading what has been written

The text of a null, of a whole number and of a string is read back as what it has
been written for, wherever it stands: at the end of a text, before a comma or before
a closing bracket.
-/

namespace CardInventory.Json

open Text Reader

variable {α β : Type}

/-- The bytes of a value. -/
def bytes (value : Json) : Bytes :=
  encode value.chars

theorem bytesOf_render (value : Json) : bytesOf value.render = value.bytes :=
  bytesOf_ofList _

/-- Whether a value may end before a text. -/
def Stops (rest : Bytes) : Prop :=
  ∀ byte ∈ rest.head?, byte = 0x2C ∨ byte = 0x5D ∨ byte = 0x7D

/-- A reader takes a text from the front of whatever it stands in and reads a value from it. -/
def Takes (reader : Reader α) (text : Bytes) (value : α) : Prop :=
  ∀ rest, Stops rest → reader (text ++ rest) = .ok (value, rest)

namespace Reader

/-! ## Single steps -/

section Steps

variable {text rest : Bytes} {byte : UInt8}

theorem bind_of_ok {reader : Reader α} {next : α → Reader β} {value : α}
    (read : reader text = .ok (value, rest)) : (reader >>= next) text = next value rest := by
  change (reader text).bind _ = _
  rw [read]
  rfl

theorem map_of_ok {reader : Reader α} (image : α → β) {value : α}
    (read : reader text = .ok (value, rest)) :
    (image <$> reader) text = .ok (image value, rest) := by
  change (reader text).map (fun read => (image read.1, read.2)) = _
  rw [read]
  rfl

theorem peek_cons : peek (byte :: rest) = .ok (some (symbol byte), byte :: rest) :=
  rfl

theorem advance_cons : advance (byte :: rest) = .ok ((), rest) :=
  rfl

theorem allowance_eq : allowance text = .ok (0 :: text, text) :=
  rfl

theorem token_cons (solid : isSpace byte = false) :
    token (byte :: rest) = .ok (some (symbol byte), byte :: rest) := by
  have kept : (byte :: rest).dropWhile isSpace = byte :: rest := by
    rw [List.dropWhile_cons, solid]
    rfl
  change Except.ok (((byte :: rest).dropWhile isSpace).head?.map symbol,
    (byte :: rest).dropWhile isSpace) = _
  rw [kept]
  rfl

theorem toNat_symbol (byte : UInt8) : (symbol byte).toNat = byte.toNat := by
  have small := byte.toNat_lt
  have valid : byte.toNat.isValidChar := .inl (by omega)
  rw [symbol, Char.ofNat, dif_pos valid]
  rfl

theorem symbol_ofNat {c : Char} (small : c.toNat < 0x80) : symbol (UInt8.ofNat c.toNat) = c := by
  rw [symbol, Utf8.toNat_ofNat (by omega), Char.ofNat_toNat]

end Steps

end Reader

/-! ## Whole numbers -/

namespace Number

theorem Stops.not_digit {rest : Bytes} (stops : Stops rest) :
    ∀ byte ∈ rest.head?, isDigit byte = false := by
  intro byte first
  rcases stops byte first with rfl | rfl | rfl <;> decide

theorem dropWhile_isDigit {rest : Bytes} (stops : Stops rest) : rest.dropWhile isDigit = rest := by
  cases rest with
  | nil => rfl
  | cons byte rest => rw [List.dropWhile_cons_of_neg (by simp [Stops.not_digit stops byte rfl])]

theorem takeWhile_isDigit {rest : Bytes} (stops : Stops rest) : rest.takeWhile isDigit = [] := by
  cases rest with
  | nil => rfl
  | cons byte rest => rw [List.takeWhile_cons_of_neg (by simp [Stops.not_digit stops byte rfl])]

section Digits

variable {c : Char}

theorem utf8EncodeChar_of_isDigit (digit : c.isDigit = true) :
    String.utf8EncodeChar c = [UInt8.ofNat c.toNat] :=
  utf8EncodeChar_of_lt (by have := toNat_of_isDigit digit; omega)

theorem isDigit_ofNat (digit : c.isDigit = true) : isDigit (UInt8.ofNat c.toNat) = true := by
  obtain ⟨low, high⟩ := toNat_of_isDigit digit
  have byte : (UInt8.ofNat c.toNat).toNat = c.toNat := Utf8.toNat_ofNat (by omega)
  simp only [isDigit, Bool.and_eq_true, decide_eq_true_eq, UInt8.le_iff_toNat_le, byte]
  exact ⟨low, high⟩

theorem digit_ofNat (digit : c.isDigit = true) :
    Number.digit (UInt8.ofNat c.toNat) = c.toNat - '0'.toNat := by
  obtain ⟨low, high⟩ := toNat_of_isDigit digit
  rw [Number.digit, Utf8.toNat_ofNat (by omega)]
  rfl

end Digits

theorem le_ofDigitChars (ds : List Char) (value : Nat) : value ≤ Nat.ofDigitChars 10 ds value := by
  rw [Nat.ofDigitChars_eq_ofDigitChars_zero]
  have scaled : 1 * value ≤ 10 ^ ds.length * value :=
    Nat.mul_le_mul_right value (Nat.one_le_pow _ _ (by decide))
  omega

/-- A row of digits is absorbed as the number it spells, as long as that is small enough. -/
theorem absorb_digits {ds : List Char} (digits : ∀ c ∈ ds, c.isDigit = true) {value : Nat}
    (small : Nat.ofDigitChars 10 ds value ≤ significandLimit) (taken : Nat) {rest : Bytes}
    (stops : Stops rest) :
    absorb value taken (encode ds ++ rest) =
      (Nat.ofDigitChars 10 ds value, taken + ds.length, rest) := by
  induction ds generalizing value taken with
  | nil =>
      cases rest with
      | nil => rfl
      | cons byte rest => simp [absorb, Stops.not_digit stops byte rfl]
  | cons c ds ih =>
      obtain ⟨first, others⟩ := List.forall_mem_cons.mp digits
      rw [Nat.ofDigitChars_cons] at small ⊢
      have grown : value * 10 + (c.toNat - '0'.toNat) = 10 * value + (c.toNat - '0'.toNat) := by
        omega
      have fits := Nat.le_trans (le_ofDigitChars ds _) small
      rw [encode_cons, utf8EncodeChar_of_isDigit first, List.append_assoc, List.singleton_append,
        absorb, isDigit_ofNat first, digit_ofNat first, grown, if_pos (by simpa using fits),
        ih others small, List.length_cons, Nat.add_assoc, Nat.add_comm 1]

/-- The digits of a positive number begin with another digit than zero. -/
theorem toDigits_eq_cons {value : Nat} (positive : 0 < value) :
    ∃ c ds, Nat.toDigits 10 value = c :: ds ∧ c ≠ '0' := by
  induction value using Nat.strongRecOn with
  | ind value ih =>
      by_cases small : value < 10
      · have others : ∀ value < 10, 0 < value → value.digitChar ≠ '0' := by decide
        exact ⟨value.digitChar, [], Nat.toDigits_of_lt_base small, others value small positive⟩
      · obtain ⟨c, ds, digits, different⟩ := ih (value / 10) (by omega) (by omega)
        rw [Nat.toDigits_of_base_le (by decide) (by omega), digits]
        exact ⟨c, _, rfl, different⟩

theorem afterWhole_stops (negative : Bool) (significand : Nat) {rest : Bytes}
    (stops : Stops rest) :
    afterWhole negative significand 0 rest = .ok (whole negative significand, rest) := by
  cases rest with
  | nil => rfl
  | cons byte rest =>
      rcases stops byte rfl with rfl | rfl | rfl <;> rfl

theorem unsigned_toDigits (negative : Bool) {value : Nat} (small : value ≤ significandLimit) :
    Takes (unsigned negative) (encode (Nat.toDigits 10 value)) (whole negative value) := by
  intro rest stops
  have digits : ∀ c ∈ Nat.toDigits 10 value, c.isDigit = true := fun c member =>
    Nat.isDigit_of_mem_toDigits (by decide) (by decide) member
  by_cases zero : value = 0
  · subst zero
    have next : (rest.head?.map isDigit).getD false = false := by
      cases rest with
      | nil => rfl
      | cons byte rest => exact Stops.not_digit stops byte rfl
    change (if (rest.head?.map isDigit).getD false = true then _ else
      afterWhole negative 0 0 rest) = _
    rw [next]
    exact afterWhole_stops negative 0 stops
  · obtain ⟨c, ds, spelled, different⟩ := toDigits_eq_cons (Nat.pos_of_ne_zero zero)
    have absorbed := absorb_digits digits
      (show Nat.ofDigitChars 10 (Nat.toDigits 10 value) 0 ≤ significandLimit by
        rwa [Nat.ofDigitChars_ten_toDigits]) 0 stops
    rw [Nat.ofDigitChars_ten_toDigits] at absorbed
    have first : c.isDigit = true := digits c (spelled ▸ List.mem_cons_self)
    obtain ⟨low, high⟩ := toNat_of_isDigit first
    have notZero : (UInt8.ofNat c.toNat == 0x30) = false := by
      refine beq_eq_false_iff_ne.mpr fun same => different ?_
      have code := congrArg UInt8.toNat same
      rw [Utf8.toNat_ofNat (by omega)] at code
      exact Char.toNat_inj.mp code
    rw [spelled, encode_cons, utf8EncodeChar_of_isDigit first] at absorbed ⊢
    simp only [List.cons_append, unsigned, notZero,
      isDigit_ofNat first] at absorbed ⊢
    rw [absorbed]
    simp only [Bool.false_eq_true, if_false, if_true, takeWhile_isDigit stops,
      dropWhile_isDigit stops, List.length_nil]
    exact afterWhole_stops negative value stops

end Number

/-- A whole number begins with a minus or a digit. -/
theorem integerChars_eq_cons (value : Int) :
    ∃ c cs, integerChars value = c :: cs ∧ opensNumber c = true ∧ (c = '-' → value < 0) := by
  cases value with
  | ofNat value =>
      obtain ⟨c, cs, digits⟩ : ∃ c cs, Nat.toDigits 10 value = c :: cs :=
        List.exists_cons_of_ne_nil Nat.toDigits_ne_nil
      have first : c.isDigit = true :=
        Nat.isDigit_of_mem_toDigits (by decide) (by decide) (digits ▸ List.mem_cons_self)
      refine ⟨c, cs, digits, by simp [opensNumber, first], ?_⟩
      rintro rfl
      cases first
  | negSucc value => exact ⟨'-', _, rfl, rfl, fun _ => Int.negSucc_lt_zero value⟩

theorem toNat_of_opensNumber {c : Char} (opens : opensNumber c = true) :
    c.toNat < 0x80 ∧ isSpace (UInt8.ofNat c.toNat) = false := by
  simp only [opensNumber, Bool.or_eq_true, decide_eq_true_eq] at opens
  rcases opens with rfl | digit
  · decide
  · obtain ⟨low, high⟩ := toNat_of_isDigit digit
    have spaces : ∀ code < 0x3A, 0x30 ≤ code → isSpace (UInt8.ofNat code) = false := by decide
    exact ⟨by omega, spaces c.toNat (by omega) low⟩

/-- A number of 64 bits is read back. -/
theorem number_integerChars {value : Int} (fits : Width.fits 64 value = true) :
    Takes number (encode (integerChars value)) (.integer value) := by
  intro rest stops
  simp only [Width.fits, Bool.and_eq_true, decide_eq_true_eq] at fits
  have low : Width.least 64 = -9223372036854775808 := by decide
  have high : Width.greatest 64 = 9223372036854775807 := by decide
  have limit : Number.significandLimit = 18446744073709551615 := by decide
  have values : Width.values 63 = 9223372036854775808 := by decide
  cases value with
  | ofNat value =>
      simp only [Int.ofNat_eq_natCast] at fits
      have read := Number.unsigned_toDigits false (show value ≤ Number.significandLimit by omega)
        rest stops
      obtain ⟨c, cs, digits, opens, minus⟩ := integerChars_eq_cons (.ofNat value)
      have unsigned : c ≠ '-' := fun same => absurd (minus same) (Int.not_lt.mpr (by simp))
      change Nat.toDigits 10 value = c :: cs at digits
      obtain ⟨small, -⟩ := toNat_of_opensNumber opens
      change number (encode (Nat.toDigits 10 value) ++ rest) = _
      rw [digits, encode_cons, utf8EncodeChar_of_lt small] at read ⊢
      simp only [List.cons_append] at read ⊢
      rw [number, bind_of_ok peek_cons, symbol_ofNat small]
      refine (congrFun (g := Number.unsigned false) ?_ _).trans read
      split
      · rename_i same
        exact absurd (Option.some.inj same) unsigned
      · rfl
  | negSucc value =>
      have read := Number.unsigned_toDigits true
        (show value + 1 ≤ Number.significandLimit by omega) rest stops
      have whole : Number.whole true (value + 1) = .integer (.negSucc value) := by
        rw [Number.whole, if_pos rfl, if_neg (by omega)]
        rfl
      rw [whole] at read
      exact read

theorem token_integerChars (value : Int) (rest : Bytes) :
    ∃ c, opensNumber c = true ∧
      token (encode (integerChars value) ++ rest) =
        .ok (some c, encode (integerChars value) ++ rest) := by
  obtain ⟨c, cs, digits, opens, -⟩ := integerChars_eq_cons value
  obtain ⟨small, solid⟩ := toNat_of_opensNumber opens
  refine ⟨c, opens, ?_⟩
  rw [digits, encode_cons, utf8EncodeChar_of_lt small, List.singleton_append, List.cons_append,
    token_cons solid, symbol_ofNat small]

theorem readNumber_integer {value : Int} (fits : Width.fits 64 value = true) :
    Takes Format.readNumber (Json.integer value).bytes (.integer value) := by
  intro rest stops
  obtain ⟨c, opens, first⟩ := token_integerChars value rest
  change Format.readNumber (encode (integerChars value) ++ rest) = _
  rw [Format.readNumber, bind_of_ok first]
  simp only [opens, if_true]
  exact number_integerChars fits rest stops

/-! ## Strings -/

/-- Put bytes in front of those that have been read. -/
def prepend (front : Bytes) (read : Bytes × Bytes) : Bytes × Bytes :=
  (front ++ read.1, read.2)

/-- A byte that stands for itself in a string is taken as it is. -/
theorem stringBytes_plain {byte : UInt8} (printable : 0x20 ≤ byte.toNat)
    (notQuote : symbol byte ≠ '"') (notEscape : symbol byte ≠ '\\') (spare : UInt8)
    (fuel more : Bytes) :
    stringBytes (spare :: fuel) (byte :: more) = (stringBytes fuel more).map (prepend [byte]) := by
  have code : UInt8.ofNat (symbol byte).toNat = byte := by
    rw [toNat_symbol, UInt8.ofNat_toNat]
  rw [stringBytes, bind_of_ok peek_cons]
  let step : Reader Bytes := do
    advance
    return byte :: (← stringBytes fuel)
  refine (congrFun (g := step) ?_ _).trans ?_
  · split
    · rename_i same
      cases same
    · rename_i same
      exact absurd (Option.some.inj same) notQuote
    · rename_i same
      exact absurd (Option.some.inj same) notEscape
    · rename_i same
      obtain rfl := Option.some.inj same
      rw [if_neg (by rw [toNat_symbol]; omega), code]
  · refine (bind_of_ok advance_cons).trans ?_
    change (stringBytes fuel more).bind _ = _
    cases stringBytes fuel more <;> rfl

theorem stringBytes_plains {plain : Bytes}
    (each : ∀ byte ∈ plain, 0x20 ≤ byte.toNat ∧ symbol byte ≠ '"' ∧ symbol byte ≠ '\\')
    {fuel : Bytes} (enough : plain.length ≤ fuel.length) (more : Bytes) :
    stringBytes fuel (plain ++ more) =
      (stringBytes (fuel.drop plain.length) more).map (prepend plain) := by
  induction plain generalizing fuel with
  | nil =>
      rw [List.nil_append, List.length_nil, List.drop_zero]
      cases stringBytes fuel more <;> rfl
  | cons byte plain ih =>
      obtain ⟨⟨printable, notQuote, notEscape⟩, others⟩ := List.forall_mem_cons.mp each
      cases fuel with
      | nil => simp at enough
      | cons spare fuel =>
          rw [List.cons_append, stringBytes_plain printable notQuote notEscape,
            ih others (Nat.le_of_succ_le_succ enough), List.length_cons, List.drop_succ_cons]
          cases stringBytes (fuel.drop plain.length) more <;> rfl

/-- An escape is taken as the character it stands for. -/
theorem stringBytes_escaped (text : Bytes) {more : Bytes} {c : Char}
    (read : escaped (text ++ more) = .ok (c, more)) (spare : UInt8) (fuel : Bytes) :
    stringBytes (spare :: fuel) (0x5C :: (text ++ more)) =
      (stringBytes fuel more).map (prepend (String.utf8EncodeChar c)) := by
  have spelled : bytesOf c.toString = String.utf8EncodeChar c := by
    rw [bytesOf_eq_encode, Char.toString, String.toList_singleton, encode_cons, encode_nil,
      List.append_nil]
  rw [stringBytes, bind_of_ok peek_cons]
  refine (bind_of_ok advance_cons).trans ((bind_of_ok read).trans ?_)
  rw [spelled]
  change (stringBytes fuel more).bind _ = _
  cases stringBytes fuel more <;> rfl

/-- The characters that are escaped by one letter. -/
def shortEscapes : List (Char × Char) :=
  [('"', '"'), ('\\', '\\'), ('\n', 'n'), ('\r', 'r'), ('\t', 't'), (Char.ofNat 0x08, 'b'),
    (Char.ofNat 0x0C, 'f')]

/-- A character is escaped by a letter, or by its number if it is a control character, or it
stands for itself. -/
theorem escape_cases (c : Char) :
    (∃ letter, (c, letter) ∈ shortEscapes ∧ escape c = ['\\', letter]) ∨
      (c.toNat < 0x20 ∧
        escape c = ['\\', 'u', '0', '0', hexDigit (c.toNat / 16), hexDigit (c.toNat % 16)]) ∨
      (0x20 ≤ c.toNat ∧ c ≠ '"' ∧ c ≠ '\\' ∧ escape c = [c]) := by
  have ofCode : ∀ code, c.toNat = code → c = Char.ofNat code := by
    rintro _ rfl
    exact (Char.ofNat_toNat c).symm
  unfold escape
  split
  · rename_i same
    exact .inl ⟨_, by simp [same, shortEscapes], rfl⟩
  split
  · rename_i same
    exact .inl ⟨_, by simp [same, shortEscapes], rfl⟩
  split
  · rename_i same
    exact .inl ⟨_, by simp [same, shortEscapes], rfl⟩
  split
  · rename_i same
    exact .inl ⟨_, by simp [same, shortEscapes], rfl⟩
  split
  · rename_i same
    exact .inl ⟨_, by simp [same, shortEscapes], rfl⟩
  split
  · rename_i code
    exact .inl ⟨_, by simp [ofCode _ code, shortEscapes], rfl⟩
  split
  · rename_i code
    exact .inl ⟨_, by simp [ofCode _ code, shortEscapes], rfl⟩
  split
  · rename_i control
    exact .inr (.inl ⟨control, rfl⟩)
  · rename_i notQuote notEscape _ _ _ _ _ printable
    exact .inr (.inr ⟨Nat.le_of_not_lt printable, notQuote, notEscape, rfl⟩)

theorem escaped_short {c letter : Char} (listed : (c, letter) ∈ shortEscapes) (more : Bytes) :
    escaped (UInt8.ofNat letter.toNat :: more) = .ok (c, more) := by
  have each : ∀ pair ∈ shortEscapes, pair.2 ≠ 'u' ∧ shortEscape? pair.2 = some pair.1 ∧
      pair.2.toNat < 0x80 := by decide
  obtain ⟨other, short, small⟩ := each _ listed
  rw [escaped, bind_of_ok peek_cons, symbol_ofNat small]
  let step : Reader Char := do
    advance
    pure c
  refine (congrFun (g := step) ?_ _).trans (bind_of_ok advance_cons)
  split
  · rename_i same
    cases same
  · rename_i same
    exact absurd (Option.some.inj same) other
  · rename_i same
    obtain rfl := Option.some.inj same
    rw [short]

theorem hexUnit_control {code : Nat} (control : code < 0x20) (more : Bytes) :
    hexUnit (0x30 :: 0x30 :: UInt8.ofNat (hexDigit (code / 16)).toNat ::
      UInt8.ofNat (hexDigit (code % 16)).toNat :: more) = .ok (code, more) := by
  have values : ∀ value < 16, hexValue? (UInt8.ofNat (hexDigit value).toNat) = some value := by
    decide
  have zero : hexValue? 0x30 = some 0 := by decide
  simp only [hexUnit, List.mapM_cons, List.mapM_nil, zero, values _ (show code / 16 < 16 by omega),
    values _ (show code % 16 < 16 by omega), Option.pure_def, Option.bind_eq_bind,
    Option.bind_some, List.foldl_cons, List.foldl_nil]
  congr 2
  omega

theorem escaped_control {c : Char} (control : c.toNat < 0x20) (more : Bytes) :
    escaped (0x75 :: 0x30 :: 0x30 :: UInt8.ofNat (hexDigit (c.toNat / 16)).toNat ::
      UInt8.ofNat (hexDigit (c.toNat % 16)).toNat :: more) = .ok (c, more) := by
  rw [escaped, bind_of_ok peek_cons]
  refine (bind_of_ok advance_cons).trans ((bind_of_ok (hexUnit_control control more)).trans ?_)
  rw [if_pos (.inl (by omega)), Char.ofNat_toNat]
  rfl

theorem plain_of_mem_utf8EncodeChar {c : Char} (printable : 0x20 ≤ c.toNat) (notQuote : c ≠ '"')
    (notEscape : c ≠ '\\') {byte : UInt8} (member : byte ∈ String.utf8EncodeChar c) :
    0x20 ≤ byte.toNat ∧ symbol byte ≠ '"' ∧ symbol byte ≠ '\\' := by
  rcases mem_utf8EncodeChar member with ⟨small, rfl⟩ | beyond
  · rw [symbol_ofNat small, Utf8.toNat_ofNat (by omega)]
    exact ⟨printable, notQuote, notEscape⟩
  · refine ⟨by omega, fun same => ?_, fun same => ?_⟩ <;>
    · have code := congrArg Char.toNat same
      rw [toNat_symbol] at code
      exact absurd code (Nat.ne_of_gt (Nat.lt_of_lt_of_le (by decide) beyond))

/-- The spelling of a character is taken as its bytes. -/
theorem stringBytes_escape (c : Char) {fuel : Bytes}
    (enough : (encode (escape c)).length ≤ fuel.length) (more : Bytes) :
    ∃ fuel', fuel.length ≤ fuel'.length + (encode (escape c)).length ∧
      stringBytes fuel (encode (escape c) ++ more) =
        (stringBytes fuel' more).map (prepend (String.utf8EncodeChar c)) := by
  have digits : ∀ value < 16, (hexDigit value).toNat < 0x80 := by decide
  rcases escape_cases c with ⟨letter, listed, spelled⟩ | ⟨control, spelled⟩ |
    ⟨printable, notQuote, notEscape, spelled⟩
  · have small : ∀ pair ∈ shortEscapes, pair.2.toNat < 0x80 := by decide
    have bytes : encode (escape c) = [0x5C, UInt8.ofNat letter.toNat] := by
      rw [spelled, encode_cons, encode_cons, utf8EncodeChar_of_lt (small _ listed)]
      rfl
    rw [bytes] at enough ⊢
    obtain ⟨spare, fuel, rfl⟩ :=
      List.exists_cons_of_length_pos (Nat.lt_of_lt_of_le (by simp) enough)
    exact ⟨fuel, by simp, stringBytes_escaped [_] (escaped_short listed more) spare fuel⟩
  · have bytes : encode (escape c) = [0x5C, 0x75, 0x30, 0x30,
        UInt8.ofNat (hexDigit (c.toNat / 16)).toNat,
        UInt8.ofNat (hexDigit (c.toNat % 16)).toNat] := by
      rw [spelled]
      simp only [encode_cons, utf8EncodeChar_of_lt (digits _ (show c.toNat / 16 < 16 by omega)),
        utf8EncodeChar_of_lt (digits _ (show c.toNat % 16 < 16 by omega))]
      rfl
    rw [bytes] at enough ⊢
    obtain ⟨spare, fuel, rfl⟩ :=
      List.exists_cons_of_length_pos (Nat.lt_of_lt_of_le (by simp) enough)
    exact ⟨fuel, by simp,
      stringBytes_escaped [_, _, _, _, _] (escaped_control control more) spare fuel⟩
  · rw [spelled, encode_cons, encode_nil, List.append_nil] at enough ⊢
    exact ⟨fuel.drop (String.utf8EncodeChar c).length, by rw [List.length_drop]; omega,
      stringBytes_plains
        (fun _ member => plain_of_mem_utf8EncodeChar printable notQuote notEscape member)
        enough more⟩

/-- The spelling of a text up to its closing quote is taken as its bytes. -/
theorem stringBytes_text (cs : List Char) {fuel : Bytes}
    (enough : (encode (cs.flatMap escape)).length < fuel.length) (rest : Bytes) :
    stringBytes fuel (encode (cs.flatMap escape) ++ 0x22 :: rest) = .ok (encode cs, rest) := by
  induction cs generalizing fuel with
  | nil =>
      obtain ⟨spare, fuel, rfl⟩ := List.exists_cons_of_length_pos enough
      rfl
  | cons c cs ih =>
      rw [List.flatMap_cons, encode_append, List.length_append] at enough
      rw [List.flatMap_cons, encode_append, List.append_assoc]
      obtain ⟨fuel', left, taken⟩ := stringBytes_escape c
        (show (encode (escape c)).length ≤ fuel.length by omega)
        (encode (cs.flatMap escape) ++ 0x22 :: rest)
      rw [taken, ih (by omega)]
      rfl

/-- A string is read back after its opening quote. -/
theorem stringTail_text (text : String) (rest : Bytes) :
    stringTail (encode (text.toList.flatMap escape) ++ 0x22 :: rest) = .ok (text, rest) := by
  have taken : stringBytes (0 :: (encode (text.toList.flatMap escape) ++ 0x22 :: rest))
      (encode (text.toList.flatMap escape) ++ 0x22 :: rest) = .ok (encode text.toList, rest) :=
    stringBytes_text text.toList (by rw [List.length_cons, List.length_append]; omega) rest
  refine (bind_of_ok allowance_eq).trans ((bind_of_ok taken).trans ?_)
  rw [← bytesOf_eq_encode, decodeStrict_bytesOf]
  rfl

end CardInventory.Json
