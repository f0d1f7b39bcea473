import CardInventory.Text.LowerCase

/-!
# Parts of a text in lower case

A part of a text is lower-cased within the text as it is by itself, but for its sigmas:
what stands before and after the part may decide their form. A text is settled if none of
its sigmas is open to that. The lower case of a settled part is a part of the lower case
of any text it stands in, and every text that is not settled stands in one where it is
not so.
-/

namespace CardInventory.Text

namespace LowerCase

/-- The lower case of a text that stands between the reversed text before it and the text
after it. -/
def between (before after : List Char) : List Char → List Char
  | [] => []
  | c :: rest =>
      (if c = capitalSigma then [sigma before (rest ++ after)] else letter c) ++
        between (c :: before) after rest

/-- The form of a sigma depends on what stands around the text it is in: on what stands before
the text if no cased letter follows the sigma, or on what stands after it if one precedes. -/
def isOpen (before after : List Char) : Bool :=
  before.all isIgnorable && !meetsCased after || meetsCased before && after.all isIgnorable

/-- No sigma of a text depends on what stands around the text. -/
def isSettled (before : List Char) : List Char → Bool
  | [] => true
  | c :: rest => !(c = capitalSigma && isOpen before rest) && isSettled (c :: before) rest

/-! ## A text and its parts -/

theorem chars_append (before text after : List Char) :
    chars before (text ++ after) =
      between before after text ++ chars (text.reverse ++ before) after := by
  induction text generalizing before with
  | nil => rfl
  | cons c rest ih =>
      simp only [List.cons_append, chars, between, ih, List.reverse_cons, List.append_assoc,
        List.nil_append]

theorem chars_eq_between (before text : List Char) :
    chars before text = between before [] text := by
  have whole := chars_append before text []
  simpa only [List.append_nil, chars] using whole

/-- Only in front of case-ignorable characters does it matter what follows. -/
theorem meetsCased_append (text after : List Char) :
    meetsCased (text ++ after) =
      if text.all isIgnorable then meetsCased after else meetsCased text := by
  induction text with
  | nil => rfl
  | cons c rest ih =>
      cases ignorable : isIgnorable c with
      | true => simpa [meetsCased, List.dropWhile_cons, ignorable] using ih
      | false => simp [meetsCased, ignorable]

theorem not_meetsCased_of_all {text : List Char} (ignorable : text.all isIgnorable = true) :
    meetsCased text = false := by
  have alone := meetsCased_append text []
  rwa [if_pos ignorable, List.append_nil] at alone

/-! ## Settled texts -/

/-- A sigma that is not open has its form whatever stands around the text. -/
theorem sigma_append {before after : List Char} (closed : isOpen before after = false)
    (before' after' : List Char) :
    sigma (before ++ before') (after ++ after') = sigma before after := by
  unfold sigma
  rw [meetsCased_append, meetsCased_append]
  simp only [isOpen, Bool.or_eq_false_iff, Bool.and_eq_false_iff, Bool.not_eq_false'] at closed
  obtain ⟨first, last⟩ := closed
  cases ignorable : before.all isIgnorable with
  | true =>
      -- No cased letter precedes within the text, so that one has to follow.
      have follows := first.resolve_left (by simp [ignorable])
      have notAll : after.all isIgnorable = false := by
        cases all : after.all isIgnorable with
        | true =>
            rw [not_meetsCased_of_all all] at follows
            cases follows
        | false => rfl
      simp [notAll, follows]
  | false =>
      rcases last with none | notAll
      · simp [none]
      · simp [notAll]

/-- A text without a capital sigma is settled. -/
theorem isSettled_of_notMem {text : List Char} (without : capitalSigma ∉ text)
    (before : List Char) : isSettled before text = true := by
  induction text generalizing before with
  | nil => rfl
  | cons c rest ih =>
      rw [List.mem_cons, not_or] at without
      obtain ⟨other, later⟩ := without
      rw [isSettled, ih later, decide_eq_false (Ne.symm other)]
      rfl

theorem between_of_isSettled {before text : List Char} (settled : isSettled before text = true)
    (before' after : List Char) :
    between (before ++ before') after text = between before [] text := by
  induction text generalizing before with
  | nil => rfl
  | cons c rest ih =>
      simp only [isSettled, Bool.and_eq_true, Bool.not_eq_true', Bool.and_eq_false_iff,
        decide_eq_false_iff_not] at settled
      obtain ⟨here, later⟩ := settled
      rw [between, between, ← List.cons_append, ih later]
      by_cases isSigma : c = capitalSigma
      · have closed := here.resolve_left (not_not_intro isSigma)
        rw [if_pos isSigma, if_pos isSigma, List.append_nil, sigma_append closed]
      · rw [if_neg isSigma, if_neg isSigma]

/-- The lower case of a settled part is a part of the lower case of the text. -/
theorem infix_lowerChars {part whole : List Char} (settled : isSettled [] part = true)
    (within : part <:+: whole) : lowerChars part <:+: lowerChars whole := by
  obtain ⟨front, back, rfl⟩ := within
  refine ⟨between [] (part ++ back) front, chars (part.reverse ++ front.reverse) back, ?_⟩
  have kept := between_of_isSettled settled front.reverse back
  rw [List.nil_append] at kept
  rw [lowerChars, lowerChars, List.append_assoc front, chars_append, chars_append, List.append_nil,
    kept, chars_eq_between, List.append_assoc]

/-! ## Texts that are not settled -/

/-- In a text that is not settled there is a sigma that is open. -/
theorem exists_isOpen {before text : List Char} (unsettled : isSettled before text = false) :
    ∃ front back, text = front ++ capitalSigma :: back ∧
      isOpen (front.reverse ++ before) back = true := by
  induction text generalizing before with
  | nil => cases unsettled
  | cons c rest ih =>
      simp only [isSettled, Bool.and_eq_false_iff, Bool.not_eq_false', Bool.and_eq_true,
        decide_eq_true_eq] at unsettled
      rcases unsettled with ⟨rfl, opened⟩ | later
      · exact ⟨[], rest, rfl, opened⟩
      · obtain ⟨front, back, rfl, opened⟩ := ih later
        exact ⟨c :: front, back, rfl, by simpa using opened⟩

section Counts

variable {form : Char} {before before' after after' : List Char}

/-- Wherever a sigma has a form in the first surroundings, it has it in the second ones. -/
def Yields (form : Char) (before after before' after' : List Char) : Prop :=
  ∀ front back, sigma (front ++ before) (back ++ after) = form →
    sigma (front ++ before') (back ++ after') = form

theorem Yields.count_letter_le (yields : Yields form before after before' after')
    (front : List Char) (c : Char) (rest : List Char) :
    (if c = capitalSigma then [sigma (front ++ before) (rest ++ after)] else letter c).count form ≤
      (if c = capitalSigma then [sigma (front ++ before') (rest ++ after')]
        else letter c).count form := by
  by_cases isSigma : c = capitalSigma
  · rw [if_pos isSigma, if_pos isSigma]
    by_cases stands : sigma (front ++ before) (rest ++ after) = form
    · exact Nat.le_of_eq (by rw [stands, yields front rest stands])
    · simp [List.count_singleton, stands]
  · exact Nat.le_of_eq (by rw [if_neg isSigma, if_neg isSigma])

theorem Yields.count_le (yields : Yields form before after before' after')
    (front text : List Char) :
    (between (front ++ before) after text).count form ≤
      (between (front ++ before') after' text).count form := by
  induction text generalizing front with
  | nil => exact Nat.le_refl _
  | cons c rest ih =>
      rw [between, between, List.count_append, List.count_append]
      exact Nat.add_le_add (yields.count_letter_le front c rest) (ih (c :: front))

/-- A sigma that has the form in the second surroundings only makes the text have it less often
in the first ones. -/
theorem Yields.count_lt (yields : Yields form before after before' after')
    (start front back : List Char)
    (lacks : sigma (front.reverse ++ start ++ before) (back ++ after) ≠ form)
    (has : sigma (front.reverse ++ start ++ before') (back ++ after') = form) :
    (between (start ++ before) after (front ++ capitalSigma :: back)).count form <
      (between (start ++ before') after' (front ++ capitalSigma :: back)).count form := by
  induction front generalizing start with
  | nil =>
      rw [List.reverse_nil, List.nil_append] at lacks has
      rw [List.nil_append, between, between, if_pos rfl, if_pos rfl, has, List.count_append,
        List.count_append, List.count_singleton_self]
      have none : [sigma (start ++ before) (back ++ after)].count form = 0 :=
        List.count_eq_zero.mpr (by simpa using Ne.symm lacks)
      rw [none, Nat.zero_add, Nat.add_comm]
      exact Nat.lt_succ_of_le (yields.count_le (capitalSigma :: start) back)
  | cons c rest ih =>
      rw [List.reverse_cons, List.append_assoc rest.reverse] at lacks has
      rw [List.cons_append, between, between, List.count_append, List.count_append]
      exact Nat.add_lt_add_of_le_of_lt (yields.count_letter_le start c _)
        (ih (c :: start) lacks has)

end Counts

/-- A letter in front of a text or behind it is cased wherever it is met. -/
theorem meetsCased_append_letter (text : List Char) :
    meetsCased (text ++ ['a']) = (text.all isIgnorable || meetsCased text) := by
  have cased : meetsCased ['a'] = true := by decide +kernel
  rw [meetsCased_append, cased]
  cases text.all isIgnorable <;> rfl

theorem sigma_eq_final_iff {before after : List Char} :
    sigma before after = 'ς' ↔ meetsCased before = true ∧ meetsCased after = false := by
  unfold sigma
  cases meetsCased before <;> cases meetsCased after <;> decide

theorem sigma_eq_medial_iff {before after : List Char} :
    sigma before after = 'σ' ↔ (meetsCased before = true → meetsCased after = true) := by
  unfold sigma
  cases meetsCased before <;> cases meetsCased after <;> decide

/-- No sigma gets its medial form by a letter in front of the text. -/
theorem yields_medial : Yields 'σ' ['a'] [] [] [] := by
  intro front back medial
  rw [sigma_eq_medial_iff, meetsCased_append_letter, List.append_nil] at medial
  rw [sigma_eq_medial_iff, List.append_nil, List.append_nil]
  intro precedes
  exact medial (by rw [precedes, Bool.or_true])

/-- No sigma gets its final form by a letter behind the text. -/
theorem yields_final : Yields 'ς' [] ['a'] [] [] := by
  intro front back final
  rw [sigma_eq_final_iff, meetsCased_append_letter, List.append_nil, Bool.or_eq_false_iff] at final
  rw [sigma_eq_final_iff, List.append_nil, List.append_nil]
  exact ⟨final.1, final.2.2⟩

theorem lowerChars_letter_cons (text : List Char) :
    lowerChars ('a' :: text) = 'a' :: between ['a'] [] text := by
  have lower : letter 'a' = ['a'] := by decide
  rw [lowerChars, chars, if_neg (by decide), lower, chars_eq_between]
  rfl

theorem lowerChars_append_letter (text : List Char) :
    lowerChars (text ++ ['a']) = between [] ['a'] text ++ ['a'] := by
  have lower : letter 'a' = ['a'] := by decide
  rw [lowerChars, chars_append, chars, if_neg (by decide), lower]
  rfl

theorem not_infix_of_count_lt (form : Char) {part whole : List Char}
    (fewer : whole.count form < part.count form) : ¬ part <:+: whole :=
  fun within => Nat.not_le.mpr fewer (within.sublist.count_le form)

/-- A text that is not settled is part of a text whose lower case does not have that of the
part in it. -/
theorem exists_not_infix_lowerChars {part : List Char} (unsettled : isSettled [] part = false) :
    ∃ whole, part <:+: whole ∧ ¬ lowerChars part <:+: lowerChars whole := by
  obtain ⟨front, back, rfl, opened⟩ := exists_isOpen unsettled
  rw [List.append_nil, isOpen, Bool.or_eq_true, Bool.and_eq_true, Bool.and_eq_true,
    Bool.not_eq_true'] at opened
  rcases opened with ⟨ignorable, follows⟩ | ⟨precedes, ignorable⟩
  · -- A letter in front makes the sigma final.
    refine ⟨'a' :: (front ++ capitalSigma :: back), (List.suffix_cons _ _).isInfix, ?_⟩
    have medial : sigma front.reverse back = 'σ' := by
      rw [sigma_eq_medial_iff, not_meetsCased_of_all ignorable]
      exact nofun
    have final : sigma (front.reverse ++ ['a']) back = 'ς' := by
      rw [sigma_eq_final_iff, meetsCased_append_letter, ignorable, follows]
      exact ⟨rfl, rfl⟩
    have fewer := yields_medial.count_lt [] front back (by simp [final]) (by simpa using medial)
    apply not_infix_of_count_lt 'σ'
    rw [lowerChars_letter_cons, List.count_cons_of_ne (by decide), lowerChars, chars_eq_between]
    exact fewer
  · -- A letter behind makes the sigma medial.
    refine ⟨front ++ capitalSigma :: back ++ ['a'], (List.prefix_append _ _).isInfix, ?_⟩
    have final : sigma front.reverse back = 'ς' :=
      sigma_eq_final_iff.mpr ⟨precedes, not_meetsCased_of_all ignorable⟩
    have medial : sigma front.reverse (back ++ ['a']) = 'σ' := by
      rw [sigma_eq_medial_iff, meetsCased_append_letter, ignorable]
      exact fun _ => rfl
    have fewer := yields_final.count_lt [] front back (by simp [medial]) (by simpa using final)
    apply not_infix_of_count_lt 'ς'
    rw [lowerChars_append_letter, List.count_append, lowerChars, chars_eq_between]
    exact fewer

end LowerCase

theorem occursIn_iff_infix {part whole : List Char} :
    occursIn part whole = true ↔ part <:+: whole := by
  induction whole with
  | nil => simp [occursIn]
  | cons c rest ih =>
      rw [occursIn, Bool.or_eq_true, List.isPrefixOf_iff_prefix, ih, List.infix_cons_iff]

end CardInventory.Text
