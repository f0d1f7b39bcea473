import CardInventory.Database.Exchange
import CardInventory.Proofs.Inventory.Conflict
import CardInventory.Proofs.Text.Offset
import CardInventory.Proofs.Uuid

/-!
# Values that are there already

The detail with which a server refuses a value that is there already names the columns
and quotes the value as it is. What is cut out of the detail is the value up to its first
closing parenthesis: the whole value where it has none, as no identifier has. Whatever
the detail is, it is cut between characters.
-/

namespace CardInventory

open Text

namespace Storage.Fault

variable {detail : String} {front back : List Char} {start stop : Nat}

/-- What stands in front of a value. -/
def opening : List Char :=
  ['=', '(']

theorem plain_opening : Plain opening := by
  simp [Plain, opening]

theorem plain_closing : Plain [')'] := by
  simp [Plain]

theorem bytesOf_opening : bytesOf "=(" = encode opening :=
  bytesOf_eq_encode "=("

theorem bytesOf_closing : bytesOf ")" = encode [')'] :=
  bytesOf_eq_encode ")"

theorem length_encode_opening : (encode (front ++ opening)).length = (encode front).length + 2 := by
  rw [encode_append, List.length_append]
  rfl

/-- A value begins behind characters of the detail. -/
theorem exists_of_valueStart? (found : valueStart? detail = some start) :
    ∃ front back, detail.toList = front ++ (opening ++ back) ∧
      start = (encode (front ++ opening)).length := by
  obtain ⟨offset, stands, rfl⟩ := Option.map_eq_some_iff.mp found
  rw [bytesOf_opening, bytesOf_eq_encode,
    offset?_encode_eq_some_iff plain_opening (List.cons_ne_nil _ _)] at stands
  obtain ⟨front, back, split, rfl, -⟩ := stands
  exact ⟨front, back, split, length_encode_opening.symm⟩

/-- The first opening is where there is none in front of it. -/
theorem valueStart?_of_not_infix (split : detail.toList = front ++ (opening ++ back))
    (clear : ¬ opening <:+: front) :
    valueStart? detail = some (encode (front ++ opening)).length := by
  refine Option.map_eq_some_iff.mpr ⟨(encode front).length, ?_, length_encode_opening.symm⟩
  rw [bytesOf_opening, bytesOf_eq_encode,
    offset?_encode_eq_some_iff plain_opening (List.cons_ne_nil _ _)]
  refine ⟨front, back, split, rfl, fun front' back' other => ?_⟩
  exact encode_length_le_of_not_infix (by decide) clear (split ▸ other)

/-- A value ends in front of the first closing parenthesis behind its beginning. -/
theorem valueStop?_eq_some_iff (split : detail.toList = front ++ back) :
    valueStop? detail (encode front).length = some stop ↔
      ∃ value rest, back = value ++ ')' :: rest ∧ ')' ∉ value ∧
        stop = (encode (front ++ value)).length := by
  rw [valueStop?, bytesOf_closing, bytesOf_eq_encode, split, encode_append, List.drop_left]
  simp only [Option.map_eq_some_iff,
    offset?_encode_eq_some_iff plain_closing (List.cons_ne_nil _ _)]
  constructor
  · rintro ⟨_, ⟨value, rest, rfl, rfl, first⟩, rfl⟩
    exact ⟨value, rest, rfl, notMem_of_first first, by rw [encode_append, List.length_append]⟩
  · rintro ⟨value, rest, rfl, missing, rfl⟩
    exact ⟨_, ⟨value, rest, rfl, rfl, fun _ _ => encode_length_le_of_notMem missing⟩,
      by rw [encode_append, List.length_append]⟩

/-- What is cut out of a detail is what stands between its first opening and the next closing
parenthesis. -/
theorem conflictingValue?_of_split {value rest : List Char}
    (split : detail.toList = front ++ (opening ++ (value ++ ')' :: rest)))
    (clear : ¬ opening <:+: front) (missing : ')' ∉ value) :
    conflictingValue? detail = some (String.ofList value) := by
  have grouped : detail.toList = (front ++ opening) ++ (value ++ ')' :: rest) := by
    rw [split, List.append_assoc]
  have stops := (valueStop?_eq_some_iff grouped).mpr ⟨value, rest, rfl, missing, rfl⟩
  simp only [conflictingValue?, valueStart?_of_not_infix split clear, bind, Option.bind, stops]
  exact between?_encode grouped

/-- A detail is cut between characters: where a value begins there, where it ends too, and what
is between them is found. -/
theorem cut_between_characters (begins : valueStart? detail = some start) :
    String.Pos.Raw.IsValid detail ⟨start⟩ ∧
      ∀ stop, valueStop? detail start = some stop →
        start ≤ stop ∧ String.Pos.Raw.IsValid detail ⟨stop⟩ ∧
          (conflictingValue? detail).isSome = true := by
  obtain ⟨front, back, split, rfl⟩ := exists_of_valueStart? begins
  rw [← List.append_assoc] at split
  refine ⟨isValid_encode split, fun stop ends => ?_⟩
  obtain ⟨value, rest, rfl, -, rfl⟩ := (valueStop?_eq_some_iff split).mp ends
  refine ⟨by simp, isValid_encode (split.trans (List.append_assoc _ _ _).symm), ?_⟩
  simp only [conflictingValue?, begins, ends, bind, Option.bind, between?_encode split,
    Option.isSome_some]

end Storage.Fault

namespace Database

open Memory Storage Storage.Fault Inventory

/-- The detail with which a server refuses a value that is there already. -/
def duplicateDetail (columns value : String) : String :=
  "Key (" ++ columns ++ ")=(" ++ value ++ ") already exists."

/-- The error of a server over a value that is there already. -/
def duplicateError (table constraint columns value : String) : ServerError :=
  ⟨"23505", s!"duplicate key value violates unique constraint \"{constraint}\"",
    some (duplicateDetail columns value), some table, some constraint⟩

theorem fault_duplicateError (table constraint columns value : String) :
    (duplicateError table constraint columns value).fault = duplicateFault table constraint value ↔
      conflictingValue? (duplicateDetail columns value) = some value := by
  simp [ServerError.fault, duplicateError, duplicateFault, ServerError.violation]

/-- A text up to its first closing parenthesis. -/
def upToClosing (text : String) : String :=
  String.ofList (text.toList.takeWhile (· ≠ ')'))

theorem upToClosing_eq_of_notMem {text : String} (missing : ')' ∉ text.toList) :
    upToClosing text = text := by
  have kept : text.toList.takeWhile (· ≠ ')') = text.toList :=
    List.takeWhile_eq_self_iff.mpr fun c member =>
      decide_eq_true (ne_of_mem_of_not_mem member missing)
  rw [upToClosing, kept, String.ofList_toList]

theorem upToClosing_eq_of_toList {text : String} {part rest : List Char}
    (whole : text.toList = part ++ ')' :: rest) (missing : ')' ∉ part) :
    upToClosing text = String.ofList part := by
  have kept : ∀ c ∈ part, decide (c ≠ ')') = true :=
    fun c member => decide_eq_true (ne_of_mem_of_not_mem member missing)
  rw [upToClosing, whole, List.takeWhile_append_of_pos kept, List.takeWhile_cons_of_neg (by simp),
    List.append_nil]

theorem notMem_upToClosing (text : String) : ')' ∉ (upToClosing text).toList := by
  rw [upToClosing, String.toList_ofList]
  intro member
  simpa using List.mem_takeWhile_imp member

/-- In front of the value in a detail stands no opening but its own. -/
theorem not_infix_of_columns {columns : List Char} (clear : ¬ opening <:+: columns) :
    ¬ opening <:+: ['K', 'e', 'y', ' ', '('] ++ (columns ++ [')']) := by
  have last : ¬ opening <:+ columns ++ [')'] := by
    rintro ⟨front, same⟩
    have ends := congrArg List.getLast? same
    simp [opening] at ends
  simp only [opening] at clear last ⊢
  simp [List.infix_cons_iff, List.infix_concat_iff, clear, last]

theorem toList_duplicateDetail (columns value : String) :
    (duplicateDetail columns value).toList =
      (['K', 'e', 'y', ' ', '('] ++ (columns.toList ++ [')'])) ++
        (opening ++ (value.toList ++ ')' :: " already exists.".toList)) := by
  simp [duplicateDetail, opening]

/-- What is cut out of the detail over a value is the value up to its first closing
parenthesis. -/
theorem conflictingValue?_duplicateDetail {columns : String} (value : String)
    (clear : ¬ opening <:+: columns.toList) :
    conflictingValue? (duplicateDetail columns value) = some (upToClosing value) := by
  have split := toList_duplicateDetail columns value
  have clear' := not_infix_of_columns clear
  by_cases closed : ')' ∈ value.toList
  · obtain ⟨part, rest, whole, missing⟩ := List.eq_append_cons_of_mem closed
    rw [whole, List.append_assoc part, List.cons_append] at split
    rw [conflictingValue?_of_split split clear' missing, upToClosing_eq_of_toList whole missing]
  · rw [conflictingValue?_of_split split clear' closed, upToClosing_eq_of_notMem closed,
      String.ofList_toList]

theorem conflictingValue?_eq_value_iff {columns : String} (value : String)
    (clear : ¬ opening <:+: columns.toList) :
    conflictingValue? (duplicateDetail columns value) = some value ↔ ')' ∉ value.toList := by
  rw [conflictingValue?_duplicateDetail value clear, Option.some_inj]
  constructor
  · intro whole
    exact whole ▸ notMem_upToClosing value
  · exact upToClosing_eq_of_notMem

/-- The fault of a server over a value that is there already is the one of the tables in memory
just if the value has no closing parenthesis. -/
theorem fault_duplicateError_iff {columns : String} (table constraint value : String)
    (clear : ¬ opening <:+: columns.toList) :
    (duplicateError table constraint columns value).fault = duplicateFault table constraint value ↔
      ')' ∉ value.toList :=
  (fault_duplicateError table constraint columns value).trans
    (conflictingValue?_eq_value_iff value clear)

/-- An identifier is spelled without parentheses. -/
theorem closing_notMem_text (id : Uuid) : ')' ∉ id.text.toList := by
  rw [Uuid.text, String.toList_ofList]
  intro member
  rcases Uuid.mem_chars member with same | ⟨value, small, same⟩
  · cases same
  · exact absurd same ((show ∀ value < 16, ')' ≠ Nat.digitChar value by decide) value small)

/-- A printing is refused over its identifier only. -/
theorem error_of_createCard {store : Store} {moment : Moment} {draft : CardDraft} {fault : Fault}
    (refused : store.createCard draft moment = .error fault) :
    fault = duplicateFault "cards" "cards_pkey" draft.id.text := by
  rw [Store.createCard] at refused
  cases taken : store.cards.contains draft.id with
  | false =>
      rw [taken] at refused
      cases refused
  | true =>
      rw [taken] at refused
      exact (Except.error.inj refused).symm

/-- The value that is there already is recovered from the detail of a server up to its first closing
parenthesis, so that it is recovered whole just if it has none. Over a user name the server's fault
is then, and only then, the one of the tables in memory; over the identifier of a printing it always
is. Whatever the detail is, where a value begins and where it ends is between characters, and what
is cut out there is found. -/
theorem conflicting_value_whole_iff (columns value detail : String) (store : Store)
    (moment : Moment) :
    (¬ opening <:+: columns.toList →
      conflictingValue? (duplicateDetail columns value) = some (upToClosing value) ∧
        (conflictingValue? (duplicateDetail columns value) = some value ↔ ')' ∉ value.toList)) ∧
      (∀ (draft : UserDraft) (fault : Fault), isBlankText draft.username = false →
        store.createUser draft moment = .error fault →
          ((duplicateError "users" "users_username_key" "username" draft.username).fault = fault ↔
            ')' ∉ draft.username.toList)) ∧
      (∀ (draft : CardDraft) (fault : Fault), store.createCard draft moment = .error fault →
          (duplicateError "cards" "cards_pkey" "id" draft.id.text).fault = fault) ∧
      ∀ start : Nat, valueStart? detail = some start →
        String.Pos.Raw.IsValid detail ⟨start⟩ ∧
          ∀ stop, valueStop? detail start = some stop →
            start ≤ stop ∧ String.Pos.Raw.IsValid detail ⟨stop⟩ ∧
              (conflictingValue? detail).isSome = true := by
  have clearUsername : ¬ opening <:+: "username".toList := by
    simp [opening, List.infix_cons_iff]
  have clearId : ¬ opening <:+: "id".toList := by
    simp [opening, List.infix_cons_iff]
  refine ⟨fun clear => ⟨conflictingValue?_duplicateDetail value clear,
    conflictingValue?_eq_value_iff value clear⟩, ?_, ?_, fun start => cut_between_characters⟩
  · intro draft fault named refused
    obtain ⟨_, _⟩ := (createUser_eq_error_iff named).mp refused
    exact fault_duplicateError_iff "users" "users_username_key" draft.username clearUsername
  · intro draft fault refused
    rw [error_of_createCard refused]
    exact (fault_duplicateError_iff "cards" "cards_pkey" draft.id.text clearId).mpr
      (closing_notMem_text draft.id)

/-- A name with a parenthesis in it is recovered without what comes after it, and one without
is recovered whole, as an identifier is. -/
theorem name_cut_at_parenthesis :
    let draft : UserDraft := ⟨"ada (2)", none⟩
    let printing : CardDraft := ⟨.ofNat 7, "Forest", none, none, none, none, [default]⟩
    let store : Store := { Store.empty with
      users := Table.insert ∅ (.ofNat 0) ⟨draft, .ofNat 0, ⟨0, 0⟩⟩
      cards := Table.insert ∅ (.ofNat 7) ⟨printing, ⟨0, 0⟩⟩ }
    let moment : Moment := ⟨⟨1, 0⟩, .ofNat 1⟩
    let taken := duplicateFault "users" "users_username_key" "ada (2)"
    let detail := duplicateDetail "username" "ada (2)"
    (¬ opening <:+: "username".toList ∧ conflictingValue? detail = some (upToClosing "ada (2)") ∧
        conflictingValue? detail ≠ some "ada (2)" ∧
        conflictingValue? (duplicateDetail "username" "ada") = some "ada") ∧
      (isBlankText draft.username = false ∧ store.createUser draft moment = .error taken ∧
        (duplicateError "users" "users_username_key" "username" "ada (2)").fault ≠ taken) ∧
      (∃ fault, store.createCard printing moment = .error fault ∧
        (duplicateError "cards" "cards_pkey" "id" (Uuid.ofNat 7).text).fault = fault) ∧
      valueStart? detail = some 16 ∧ String.Pos.Raw.IsValid detail ⟨16⟩ := by
  intro draft printing store moment taken detail
  have clear : ¬ opening <:+: "username".toList := by simp [opening, List.infix_cons_iff]
  have closed : ¬ ')' ∉ "ada (2)".toList := by simp
  have named : isBlankText draft.username = false := by decide +kernel
  have found : store.users.get? (.ofNat 0) = some ⟨draft, .ofNat 0, ⟨0, 0⟩⟩ := rfl
  have refused : store.createUser draft moment = .error taken :=
    (createUser_eq_error_iff named).mpr (.username found rfl)
  have begins : valueStart? detail = some 16 := by decide +kernel
  obtain ⟨whole, users, printings, places⟩ :=
    conflicting_value_whole_iff "username" "ada (2)" detail store moment
  obtain ⟨short, -⟩ := conflicting_value_whole_iff "username" "ada" detail store moment
  refine ⟨⟨clear, (whole clear).1, ?_, ?_⟩, ⟨named, refused, ?_⟩,
    ⟨_, rfl, printings printing _ rfl⟩, begins, (places 16 begins).1⟩
  · exact mt (whole clear).2.mp closed
  · exact (short clear).2.mpr (by simp)
  · exact mt (users draft taken named refused).mp closed

end Database

end CardInventory
