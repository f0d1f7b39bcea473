import CardInventory.Instant.Parser
import CardInventory.Proofs.Instant.Calendar
import CardInventory.Proofs.Text.Utf8
import Mathlib.Algebra.Group.Nat.Defs

/-!
# Texts of instants

The text of an instant that has been read spells this instant: its date is the date of
its day, its numbers are read as far as they are written, and a leap second stands in the
sixtieth second of its minute. An offset from UTC is not kept.
-/

namespace CardInventory.Instant

open Text Decimal

theorem bind_of_some {α β : Type} {found : Option α} {value : α} (same : found = some value)
    {next : α → Option β} : (found >>= next) = next value := by
  rw [same]
  rfl

/-! ## Numbers -/

/-- Digits, and at least one of them. -/
structure Numeral (ds : List Char) : Prop where
  digits : ∀ c ∈ ds, c.isDigit = true
  nonempty : ds ≠ []

theorem isBlank_of_isDigit {c : Char} (digit : c.isDigit = true) : isBlank c = false := by
  obtain ⟨low, high⟩ := toNat_of_isDigit digit
  simp [isBlank, inRanges, blankRanges]
  omega

theorem natOfDigits_eq_ofDigitChars (ds : List Char) :
    natOfDigits ds = Nat.ofDigitChars 10 ds 0 := by
  rw [natOfDigits, Nat.ofDigitChars_eq_foldl]
  simp only [Nat.mul_comm 10]

/-- A number of so many digits is below this power of ten. -/
theorem natOfDigits_lt {ds : List Char} (digits : ∀ c ∈ ds, c.isDigit = true) :
    natOfDigits ds < 10 ^ ds.length := by
  rw [natOfDigits_eq_ofDigitChars]
  induction ds with
  | nil => decide
  | cons c ds ih =>
      obtain ⟨first, others⟩ := List.forall_mem_cons.mp digits
      obtain ⟨low, high⟩ := toNat_of_isDigit first
      rw [Nat.ofDigitChars_cons, Nat.ofDigitChars_eq_ofDigitChars_zero, List.length_cons,
        Nat.pow_succ]
      have small := ih others
      have zero : '0'.toNat = 0x30 := rfl
      have leading : 10 ^ ds.length * (10 * 0 + (c.toNat - '0'.toNat)) ≤ 10 ^ ds.length * 9 :=
        Nat.mul_le_mul_left _ (by omega)
      omega

section Padded

variable {width value : Nat}

theorem numeral_padded (width value : Nat) : Numeral (padded width value) where
  digits c member := by
    rcases List.mem_append.mp member with zero | digit
    · rw [List.eq_of_mem_replicate zero]
      rfl
    · exact Nat.isDigit_of_mem_toDigits (by decide) (by decide) digit
  nonempty empty := Nat.toDigits_ne_nil (List.append_eq_nil_iff.mp empty).2

theorem natOfDigits_padded (width value : Nat) : natOfDigits (padded width value) = value := by
  rw [natOfDigits_eq_ofDigitChars, padded, Nat.ofDigitChars_append,
    Nat.ofDigitChars_replicate_zero, Nat.mul_zero, Nat.ofDigitChars_ten_toDigits]

theorem length_padded (wide : 0 < width) (small : value < 10 ^ width) :
    (padded width value).length = width := by
  have short := (Nat.length_toDigits_le_iff (by decide) wide).mpr small
  rw [padded, List.length_append, List.length_replicate]
  omega

end Padded

section Digits

variable {ds rest : List Char} {width : Nat}

theorem takeWhile_numeral (numeral : Numeral ds) (fits : ds.length ≤ width)
    (ends : ds.length = width ∨ ∀ c ∈ rest.head?, c.isDigit = false) :
    ((ds ++ rest).take width).takeWhile Char.isDigit = ds := by
  rw [List.take_append, List.take_of_length_le fits,
    List.takeWhile_append_of_pos numeral.digits]
  refine (congrArg (ds ++ ·) ?_).trans (List.append_nil ds)
  rcases ends with full | other
  · rw [full, Nat.sub_self]
    rfl
  · cases rest with
    | nil => rw [List.take_nil, List.takeWhile_nil]
    | cons c rest =>
        cases width - ds.length with
        | zero => rfl
        | succ left =>
            rw [List.take_succ_cons, List.takeWhile_cons_of_neg (by simp [other c rfl])]

theorem digits?_numeral (numeral : Numeral ds) (fits : ds.length ≤ width)
    (ends : ds.length = width ∨ ∀ c ∈ rest.head?, c.isDigit = false) :
    digits? width (ds ++ rest) = some (natOfDigits ds, rest) := by
  rw [digits?, takeWhile_numeral numeral fits ends,
    if_neg (by simpa using numeral.nonempty), List.drop_left]

theorem trimFront_numeral (numeral : Numeral ds) (rest : List Char) :
    trimFront (ds ++ rest) = ds ++ rest := by
  obtain ⟨c, cs, rfl⟩ := List.exists_cons_of_ne_nil numeral.nonempty
  have solid := isBlank_of_isDigit (numeral.digits c List.mem_cons_self)
  rw [trimFront, List.cons_append, List.dropWhile_cons_of_neg (by simp [solid])]

end Digits

theorem number?_padded {value : Nat} (small : value < 100) (rest : List Char) :
    number? 2 (padded 2 value ++ rest) = some (value, rest) := by
  have length := length_padded (show 0 < 2 by decide) small
  rw [number?, trimFront_numeral (numeral_padded 2 value),
    digits?_numeral (numeral_padded 2 value) (Nat.le_of_eq length) (.inl length),
    natOfDigits_padded]

theorem mark?_cons {mark : Char} (solid : isBlank mark = false) (rest : List Char) :
    mark? mark (mark :: rest) = some rest := by
  rw [mark?, trimFront, List.dropWhile_cons_of_neg (by simp [solid])]
  exact if_pos rfl

theorem year?_numeral {ds rest : List Char} (numeral : Numeral ds) (short : ds.length = 4) :
    year? (ds ++ rest) = some ((natOfDigits ds : Int), rest) := by
  have read : digits? 4 (ds ++ rest) = some (natOfDigits ds, rest) :=
    digits?_numeral numeral (Nat.le_of_eq short) (.inl short)
  obtain ⟨c, cs, rfl⟩ := List.exists_cons_of_ne_nil numeral.nonempty
  have digit := numeral.digits c List.mem_cons_self
  rw [year?, trimFront_numeral numeral, List.cons_append]
  split
  · rename_i same
    cases (List.cons.inj same).1
    cases digit
  · rename_i same
    cases (List.cons.inj same).1
    cases digit
  · rw [← List.cons_append, read]
    rfl

theorem year?_minus (rest : List Char) :
    year? ('-' :: rest) =
      (digits? rest.length rest).map fun (value, tail) => (-(value : Int), tail) :=
  rfl

theorem year?_plus (rest : List Char) :
    year? ('+' :: rest) =
      (digits? rest.length rest).map fun (value, tail) => ((value : Int), tail) :=
  rfl

theorem year?_yearChars (year : Int) (rest : List Char) :
    year? (yearChars year ++ '-' :: rest) = some (year, '-' :: rest) := by
  rw [yearChars]
  split
  · rename_i short
    rw [year?_numeral (numeral_padded 4 year.toNat) (length_padded (by decide) (by omega)),
      natOfDigits_padded, Int.toNat_of_nonneg short.1]
  · -- A year with a sign has all the digits up to the mark behind it.
    have read : digits? (padded 4 year.natAbs ++ '-' :: rest).length
        (padded 4 year.natAbs ++ '-' :: rest) = some (year.natAbs, '-' :: rest) := by
      rw [digits?_numeral (numeral_padded 4 year.natAbs) (by simp), natOfDigits_padded]
      right
      rintro _ ⟨⟩
      rfl
    split
    · rw [List.cons_append, year?_minus, read, Option.map_some]
      change some (-(year.natAbs : Int), _) = _
      rw [show -(year.natAbs : Int) = year by omega]
    · rw [List.cons_append, year?_plus, read, Option.map_some]
      change some ((year.natAbs : Int), _) = _
      rw [show (year.natAbs : Int) = year by omega]

/-! ## Fractions of a second -/

theorem fraction?_padded {width value : Nat} (wide : 0 < width) (short : width ≤ 9)
    (small : value < 10 ^ width) (rest : List Char) :
    fraction? ('.' :: (padded width value ++ 'Z' :: rest)) =
      some (value * 10 ^ (9 - width), 'Z' :: rest) := by
  have numeral := numeral_padded width value
  have length := length_padded wide small
  have ends : (padded width value).length = 9 ∨ ∀ c ∈ ('Z' :: rest).head?, c.isDigit = false := by
    right
    rintro _ ⟨⟩
    rfl
  have fits : (padded width value).length ≤ 9 := by omega
  rw [fraction?, digits?_numeral numeral fits ends, takeWhile_numeral numeral fits ends,
    natOfDigits_padded, length]
  rfl

theorem fraction?_fractionChars {nanos : Nat} (small : nanos < 1000000000) (rest : List Char) :
    fraction? (fractionChars nanos ++ 'Z' :: rest) = some (nanos, 'Z' :: rest) := by
  rw [fractionChars]
  split
  · rename_i zero
    rw [zero]
    rfl
  split
  · rw [List.cons_append, fraction?_padded (by decide) (by decide) (by omega)]
    congr 2
    omega
  split
  · rw [List.cons_append, fraction?_padded (by decide) (by decide) (by omega)]
    congr 2
    omega
  · rw [List.cons_append, fraction?_padded (by decide) (by decide) (by omega)]
    congr 2
    omega

/-! ## Instants -/

/-- What holds of an instant that has been read: it lies in the calendar, its nanoseconds go
beyond a second at most in a leap second, and this ends a minute. -/
structure Valid (instant : Instant) : Prop where
  inCalendar : instant.inCalendar = true
  nanos : instant.nanos < 2000000000
  leap : 1000000000 ≤ instant.nanos → instant.seconds % 60 = 59

theorem separator?_mark (rest : List Char) : separator? ('T' :: rest) = some rest :=
  rfl

theorem offset?_mark : offset? ['Z'] = some (0, []) := by
  decide

/-- The characters of a date and a time of day. -/
def clockChars (date : Date) (hour minute second nanos : Nat) : List Char :=
  yearChars date.year ++ '-' :: (padded 2 date.month ++ '-' :: (padded 2 date.day ++
    'T' :: (padded 2 hour ++ ':' :: (padded 2 minute ++ ':' :: (padded 2 second ++
      (fractionChars nanos ++ ['Z']))))))

/-- The instant of a date and a time of day; the sixtieth second of a minute is a leap second. -/
def atClock (date : Date) (hour minute second nanos : Nat) : Instant :=
  let leap := if second = 60 then 1 else 0
  ⟨date.dayNumber * 86400 + ((hour * 3600 + minute * 60 + (second - leap) : Nat) : Int) - 0,
    nanos + leap * 1000000000⟩

/-- The numbers of a date and a time of day are read one after another. -/
theorem ofChars?_clockChars {date : Date} (real : date.exists? = true)
    {hour minute second nanos : Nat} (hours : hour < 24) (minutes : minute < 60)
    (seconds : second ≤ 60) (small : nanos < 1000000000)
    (within : (atClock date hour minute second nanos).inCalendar = true) :
    ofChars? (clockChars date hour minute second nanos) =
      some (atClock date hour minute second nanos) := by
  obtain ⟨months, days⟩ := Date.lt_of_exists? real
  rw [ofChars?, clockChars]
  refine (bind_of_some (year?_yearChars date.year _)).trans ?_
  refine (bind_of_some (mark?_cons (by decide) _)).trans ?_
  refine (bind_of_some (number?_padded months _)).trans ?_
  refine (bind_of_some (mark?_cons (by decide) _)).trans ?_
  refine (bind_of_some (number?_padded days _)).trans ?_
  refine (bind_of_some (separator?_mark _)).trans ?_
  refine (bind_of_some (number?_padded (by omega) _)).trans ?_
  refine (bind_of_some (mark?_cons (by decide) _)).trans ?_
  refine (bind_of_some (number?_padded (by omega) _)).trans ?_
  refine (bind_of_some (mark?_cons (by decide) _)).trans ?_
  refine (bind_of_some (number?_padded (by omega) _)).trans ?_
  refine (bind_of_some (fraction?_fractionChars small [])).trans ?_
  refine (bind_of_some offset?_mark).trans ?_
  exact (if_pos ⟨rfl, real, hours, minutes, seconds⟩).trans (if_pos within)

/-- The text of a valid instant spells it. -/
theorem Valid.ofChars?_chars {instant : Instant} (valid : instant.Valid) :
    ofChars? instant.chars = some instant := by
  obtain ⟨seconds, nanos⟩ := instant
  obtain ⟨inCalendar, bounded, leap⟩ := valid
  simp only at bounded leap
  have years : Date.firstYear ≤ (Date.ofDayNumber (seconds / 86400)).year ∧
      (Date.ofDayNumber (seconds / 86400)).year ≤ Date.lastYear := by
    simpa [Instant.inCalendar] using inCalendar
  have real := Date.exists?_ofDayNumber years
  have number := Date.dayNumber_ofDayNumber (seconds / 86400)
  obtain ⟨extra, marked, once, whole, last⟩ : ∃ extra,
      (if 1000000000 ≤ nanos then 1 else 0) = extra ∧ extra ≤ 1 ∧
        nanos % 1000000000 + extra * 1000000000 = nanos ∧
        (extra = 1 → (seconds % 86400).toNat % 60 = 59) := by
    refine ⟨_, rfl, ?_⟩
    split <;> omega
  obtain ⟨time, clock, today, passed⟩ : ∃ time, (seconds % 86400).toNat = time ∧ time < 86400 ∧
      seconds / 86400 * 86400 + (time : Int) = seconds :=
    ⟨_, rfl, by omega, by omega⟩
  rw [clock] at last
  have chars_eq : chars ⟨seconds, nanos⟩ = clockChars (Date.ofDayNumber (seconds / 86400))
      (time / 3600) (time / 60 % 60) (time % 60 + extra) (nanos % 1000000000) := by
    simp only [chars, clockChars, clock, marked, List.append_assoc, List.cons_append]
  have spelled : atClock (Date.ofDayNumber (seconds / 86400)) (time / 3600) (time / 60 % 60)
      (time % 60 + extra) (nanos % 1000000000) = ⟨seconds, nanos⟩ := by
    have sixtieth : (if time % 60 + extra = 60 then 1 else 0) = extra := by
      split <;> omega
    simp only [atClock, sixtieth, number, whole]
    congr 1
    omega
  rw [chars_eq, ofChars?_clockChars real (by omega) (by omega) (by omega)
    (Nat.mod_lt nanos (by decide)) (by rw [spelled, inCalendar]), spelled]

theorem fraction?_lt {cs rest : List Char} {nanos : Nat}
    (read : fraction? cs = some (nanos, rest)) : nanos < 1000000000 := by
  unfold fraction? at read
  split at read
  · rename_i cs
    obtain ⟨⟨value, tail⟩, digits, same⟩ := Option.map_eq_some_iff.mp read
    rw [digits?] at digits
    split at digits
    · cases digits
    · obtain ⟨rfl, rfl⟩ := Prod.mk.inj (Option.some.inj digits)
      obtain ⟨rfl, -⟩ := Prod.mk.inj same
      have small := natOfDigits_lt
        (List.all_eq_true.mp (List.all_takeWhile (l := cs.take 9) (p := Char.isDigit)))
      have short : ((cs.take 9).takeWhile Char.isDigit).length ≤ 9 :=
        Nat.le_trans (List.takeWhile_sublist _).length_le (List.length_take_le _ _)
      generalize (cs.take 9).takeWhile Char.isDigit = taken at small short ⊢
      calc natOfDigits taken * 10 ^ (9 - taken.length)
          < 10 ^ taken.length * 10 ^ (9 - taken.length) :=
            Nat.mul_lt_mul_of_pos_right small (Nat.pow_pos (by decide))
        _ = 10 ^ 9 := by rw [← Nat.pow_add, Nat.add_sub_cancel' short]
  · cases read
    decide

theorem offset?_emod {cs rest : List Char} {offset : Int}
    (read : offset? cs = some (offset, rest)) : offset % 60 = 0 := by
  simp only [offset?] at read
  split at read
  · cases read
    rfl
  split at read
  · cases read
    rfl
  · cases read
    rfl
  · simp only [Option.bind_eq_bind, Option.bind_eq_some_iff] at read
    obtain ⟨⟨sign, _⟩, -, ⟨hours, _⟩, -, ⟨minutes, _⟩, -, read⟩ := read
    split at read
    · cases read
      refine Int.emod_eq_zero_of_dvd (Int.dvd_mul_of_dvd_right ?_)
      omega
    · cases read

/-- An instant that has been read is valid. -/
theorem valid_of_ofChars? {cs : List Char} {instant : Instant}
    (read : ofChars? cs = some instant) : instant.Valid := by
  rw [ofChars?] at read
  obtain ⟨⟨year, _⟩, -, read⟩ := Option.bind_eq_some_iff.mp read
  obtain ⟨_, -, read⟩ := Option.bind_eq_some_iff.mp read
  obtain ⟨⟨month, _⟩, -, read⟩ := Option.bind_eq_some_iff.mp read
  obtain ⟨_, -, read⟩ := Option.bind_eq_some_iff.mp read
  obtain ⟨⟨day, _⟩, -, read⟩ := Option.bind_eq_some_iff.mp read
  obtain ⟨_, -, read⟩ := Option.bind_eq_some_iff.mp read
  obtain ⟨⟨hour, _⟩, -, read⟩ := Option.bind_eq_some_iff.mp read
  obtain ⟨_, -, read⟩ := Option.bind_eq_some_iff.mp read
  obtain ⟨⟨minute, _⟩, -, read⟩ := Option.bind_eq_some_iff.mp read
  obtain ⟨_, -, read⟩ := Option.bind_eq_some_iff.mp read
  obtain ⟨⟨second, _⟩, -, read⟩ := Option.bind_eq_some_iff.mp read
  obtain ⟨⟨nanos, _⟩, fraction, read⟩ := Option.bind_eq_some_iff.mp read
  obtain ⟨⟨offset, _⟩, shift, read⟩ := Option.bind_eq_some_iff.mp read
  obtain ⟨-, read⟩ := Option.ite_none_right_eq_some.mp read
  obtain ⟨within, same⟩ := Option.ite_none_right_eq_some.mp read
  have small := fraction?_lt fraction
  have minutes := offset?_emod shift
  obtain rfl := Option.some.inj same
  refine ⟨within, ?_, fun late => ?_⟩
  · change nanos + (if second = 60 then 1 else 0) * 1000000000 < _
    split <;> omega
  · change 1000000000 ≤ nanos + (if second = 60 then 1 else 0) * 1000000000 at late
    by_cases leap : second = 60
    · subst leap
      simp only [if_true]
      omega
    · rw [if_neg leap] at late
      omega

theorem Valid.parse?_text {instant : Instant} (valid : instant.Valid) :
    parse? instant.text = some instant := by
  rw [parse?, text, String.toList_ofList, valid.ofChars?_chars]

/-- The text of an instant that has been read is read as this instant again. -/
theorem parse?_text_of_parse? {text : String} {instant : Instant}
    (read : parse? text = some instant) : parse? instant.text = some instant :=
  (valid_of_ofChars? read).parse?_text

end CardInventory.Instant
