import CardInventory.Proofs.Database.Criteria

/-!
# Reading an update

An update is read back from its text: what is assigned to the columns of a row, and the
comparison that is true of the rows it changes. Over the row of a deck the update that is
written for a change of the deck makes the row of the changed deck, and it changes no row of
another.
-/

namespace CardInventory.Database

/-- What is assigned to a column: the value of an expression over the row as it was, or the time
of the statement. -/
inductive Source where
  | value (expression : Expression)
  | time

/-- What is assigned to one column. -/
structure Assignment where
  column : String
  source : Source

/-- An update that is read, with the comparison that is true of the rows it changes. -/
structure Update where
  assignments : List Assignment
  condition : Test

/-- Read what is assigned and what follows it. -/
def readSource (bound : List Value) (fuel : Nat) : List Token → Option (Source × List Token)
  | .word "NOW" :: .mark '(' :: .mark ')' :: rest => some (.time, rest)
  | rest => do
      let (value, rest) ← expression bound fuel rest
      return (.value value, rest)

/-- Read one or more assignments and what follows them. -/
def readAssignments (bound : List Value) : Nat → List Token → Option (List Assignment × List Token)
  | fuel + 1, .word column :: .mark '=' :: rest => do
      let (source, rest) ← readSource bound fuel rest
      match rest with
      | .mark ',' :: rest => do
          let (others, rest) ← readAssignments bound fuel rest
          return (⟨column, source⟩ :: others, rest)
      | _ => return ([⟨column, source⟩], rest)
  | _, _ => none

/-- The update of a table that a statement is, which returns the rows it has changed. -/
def readUpdate (table : String) (written : Written) : Option Update := do
  let fuel := (tokens written.text).length
  let rest ← skipAll [.word "UPDATE", .word table, .word "SET"] (tokens written.text)
  let (assignments, rest) ← readAssignments written.values fuel rest
  let rest ← skip (.word "WHERE") rest
  let (condition, rest) ← readTest written.values fuel rest
  let _ ← skip (.word "RETURNING") rest
  return ⟨assignments, condition⟩

/-- The value that is assigned over a row at a time. -/
def Source.over (row : String → Value) (now : Value) : Source → Value
  | value expression => expression.value row
  | time => now

/-- A row after an update at a time. A column that nothing is assigned to keeps its value. -/
def Update.over (row : String → Value) (now : Value) (update : Update) (name : String) : Value :=
  match update.assignments.find? fun assignment => assignment.column = name with
  | some assignment => assignment.source.over row now
  | none => row name

/-! ## The update of a deck -/

/-- The columns of a deck, those that are inserted first. -/
def deckColumnNames : List String :=
  ["id", "owner_id", "name", "format", "capacity", "notes", "created_at", "updated_at"]

example : ", ".intercalate deckColumnNames = Statement.deckColumns := by decide +kernel

/-- The row of a deck; `stamp` is how a time is stored. -/
def deckFields (stamp : Instant → Value) (deck : Deck) : List (String × Value) :=
  deckColumnNames.zip ((Statement.insertDeck deck.id deck.toDeckDraft).written.values ++
    [stamp deck.createdAt, stamp deck.updatedAt])

theorem deckFields_eq (stamp : Instant → Value) (deck : Deck) :
    deckFields stamp deck =
      [("id", .uuid deck.id), ("owner_id", .uuid deck.owner), ("name", .text deck.name),
        ("format", .text deck.format), ("capacity", .ofInteger? deck.capacity),
        ("notes", .ofText? deck.notes), ("created_at", stamp deck.createdAt),
        ("updated_at", stamp deck.updatedAt)] :=
  rfl

/-- The update that is written for a change of a deck. -/
def deckUpdate (id : Uuid) (patch : DeckPatch) : Update where
  assignments :=
    [⟨"name", .value (.coalesce (.constant (.ofText? patch.name)) (.column "name"))⟩,
      ⟨"format", .value (.coalesce (.constant (.ofText? patch.format)) (.column "format"))⟩,
      ⟨"notes", .value (.choice (.constant (.flag patch.notes.isSome))
        (.constant (.ofText? patch.notes.join)) (.column "notes"))⟩,
      ⟨"capacity", .value (.choice (.constant (.flag patch.capacity.isSome))
        (.constant (.ofInteger? patch.capacity.join)) (.column "capacity"))⟩,
      ⟨"updated_at", .time⟩]
  condition := ⟨.equal, .column "id", .constant (.uuid id)⟩

/-- The tokens that assign something to a column, up to the next assignment. -/
def assigned (column : String) (source : List Token) : List Token :=
  .word column :: .mark '=' :: source ++ [.mark ',']

/-- The tokens of a value, or where it is null of the one a column has. -/
def given (number : Nat) (column : String) : List Token :=
  [.word "COALESCE", .mark '(', .placeholder number, .mark ',', .word column, .mark ')']

/-- The tokens of a value, or where a flag is not set of the one a column has. -/
def flagged (flag number : Nat) (column : String) : List Token :=
  [.word "CASE", .word "WHEN", .placeholder flag, .word "THEN", .placeholder number,
    .word "ELSE", .word column, .word "END"]

theorem tokens_updateDeck (id : Uuid) (patch : DeckPatch) :
    tokens (Statement.updateDeck id patch).written.text =
      [.word "UPDATE", .word "decks", .word "SET"] ++ assigned "name" (given 2 "name") ++
        assigned "format" (given 3 "format") ++ assigned "notes" (flagged 4 5 "notes") ++
        assigned "capacity" (flagged 6 7 "capacity") ++
        [.word "updated_at", .mark '=', .word "NOW", .mark '(', .mark ')', .word "WHERE",
          .word "id", .mark '=', .placeholder 1, .word "RETURNING"] ++
        tokens Statement.deckColumns := by
  -- The text is taken as a list of characters, from which the tokens are found faster.
  have parts : ∀ {a b c d : List Char} (_ : Closes (a ++ b ++ c ++ d)),
      tokens (String.ofList a ++ String.ofList b ++ String.ofList c ++
          (String.ofList d ++ Statement.deckColumns)) =
        scan [] (a ++ b ++ c ++ d) ++ tokens Statement.deckColumns := by
    intro a b c d closes
    simp only [tokens, String.toList_append, String.toList_ofList, ← List.append_assoc,
      scan_append_of_closes closes]
  refine (parts ⟨' ', rfl, rfl⟩).trans (congrArg (· ++ _) ?_)
  decide +kernel

section Reads

variable {bound : List Value} {fuel : Nat}

theorem readAssignments_assigned {source : Source} {tokens : List Token}
    (reads : ∀ rest, readSource bound fuel (tokens ++ rest) = some (source, rest))
    (column : String) (rest : List Token) :
    readAssignments bound (fuel + 1) (assigned column tokens ++ rest) =
      (readAssignments bound fuel rest).map fun read => (⟨column, source⟩ :: read.1, read.2) := by
  simp only [assigned, List.cons_append, List.append_assoc, List.nil_append, readAssignments, reads,
    Option.bind_eq_bind, Option.bind_some]
  cases readAssignments bound fuel rest <;> rfl

/-- A column that is no name of a function is read as a column. -/
theorem expression_column {column : String}
    (plain : column ∉ ["lower", "strpos", "COALESCE", "CASE"]) (rest : List Token) :
    expression bound (fuel + 1) (.word column :: rest) = some (.column column, rest) := by
  simp only [List.mem_cons, List.not_mem_nil, or_false, not_or] at plain
  simp [expression, plain]

theorem expression_placeholder {number : Nat} {value : Value}
    (found : bound[number]? = some value) (rest : List Token) :
    expression bound (fuel + 1) (.placeholder (number + 1) :: rest) =
      some (.constant value, rest) := by
  simp [expression, found]

section Values

variable {column : String} (plain : column ∉ ["lower", "strpos", "COALESCE", "CASE"])
  {number : Nat} {value : Value} (found : bound[number]? = some value)

include plain found

theorem readSource_given (rest : List Token) :
    readSource bound (fuel + 2) (given (number + 1) column ++ rest) =
      some (.value (.coalesce (.constant value) (.column column)), rest) := by
  simp [given, readSource, expression.eq_2, skip, expression_placeholder found,
    expression_column plain]

theorem readSource_flagged {flag : Nat} {set : Value} (flags : bound[flag]? = some set)
    (rest : List Token) :
    readSource bound (fuel + 2) (flagged (flag + 1) (number + 1) column ++ rest) =
      some (.value (.choice (.constant set) (.constant value) (.column column)), rest) := by
  simp [flagged, readSource, expression.eq_2, skip, expression_placeholder found,
    expression_placeholder flags, expression_column plain]

end Values

end Reads

theorem readUpdate_deck (id : Uuid) (patch : DeckPatch) :
    readUpdate "decks" (Statement.updateDeck id patch).written = some (deckUpdate id patch) := by
  have long : 7 ≤ (tokens (Statement.updateDeck id patch).written.text).length := by
    rw [tokens_updateDeck]
    simp only [List.length_append, List.length_cons]
    omega
  obtain ⟨fuel, long⟩ := Nat.exists_eq_add_of_le' long
  have name : ∀ rest, readSource (Statement.patchValues id patch) (fuel + 6)
      (given 2 "name" ++ rest) = some (.value (.coalesce (.constant (.ofText? patch.name))
        (.column "name")), rest) := readSource_given (by decide) rfl
  have format : ∀ rest, readSource (Statement.patchValues id patch) (fuel + 5)
      (given 3 "format" ++ rest) = some (.value (.coalesce (.constant (.ofText? patch.format))
        (.column "format")), rest) := readSource_given (by decide) rfl
  have notes : ∀ rest, readSource (Statement.patchValues id patch) (fuel + 4)
      (flagged 4 5 "notes" ++ rest) = some (.value (.choice (.constant (.flag patch.notes.isSome))
        (.constant (.ofText? patch.notes.join)) (.column "notes")), rest) :=
    readSource_flagged (by decide) rfl rfl
  have capacity : ∀ rest, readSource (Statement.patchValues id patch) (fuel + 3)
      (flagged 6 7 "capacity" ++ rest) =
        some (.value (.choice (.constant (.flag patch.capacity.isSome))
          (.constant (.ofInteger? patch.capacity.join)) (.column "capacity")), rest) :=
    readSource_flagged (by decide) rfl rfl
  have values : (Statement.updateDeck id patch).written.values = Statement.patchValues id patch :=
    rfl
  rw [readUpdate, long, tokens_updateDeck, values]
  simp only [List.append_assoc, skipAll_append]
  simp only [Option.bind_eq_bind, Option.bind_some, readAssignments_assigned name,
    readAssignments_assigned format, readAssignments_assigned notes,
    readAssignments_assigned capacity]
  rfl

/-- The update that is written for a change of a deck is of no deck but the one it names. -/
theorem deckUpdate_condition (id : Uuid) (patch : DeckPatch) (stamp : Instant → Value)
    (deck : Deck) :
    (deckUpdate id patch).condition.holds (fieldOf (deckFields stamp deck)) =
      decide (deck.id = id) :=
  rfl

section Values

variable {row : String → Value} {column : String}

/-- A value that is given takes the place of the one a column has. -/
theorem value_given {old : String} (stored : row column = .text old) (value : Option String) :
    (Expression.coalesce (.constant (.ofText? value)) (.column column)).value row =
      .text (value.getD old) := by
  cases value <;> simp [Expression.value, Value.ofText?, stored]

/-- A value that is set or cleared takes the place of the one a column has. -/
theorem value_flagged {α : Type} (form : Option α → Value) {old : Option α}
    (stored : row column = form old) (value : Option (Option α)) :
    (Expression.choice (.constant (.flag value.isSome)) (.constant (form value.join))
      (.column column)).value row = form (value.getD old) := by
  cases value <;> simp [Expression.value, stored]

end Values

/-- The update that is written for a change of a deck makes the row of a deck that of the changed
deck. -/
theorem deckUpdate_over (id : Uuid) (patch : DeckPatch) (stamp : Instant → Value) (deck : Deck)
    (now : Instant) :
    (deckUpdate id patch).over (fieldOf (deckFields stamp deck)) (stamp now) =
      fieldOf (deckFields stamp (patch.apply deck now)) := by
  funext column
  by_cases name : "name" = column
  · subst name
    exact value_given rfl patch.name
  by_cases format : "format" = column
  · subst format
    exact value_given rfl patch.format
  by_cases notes : "notes" = column
  · subst notes
    exact value_flagged .ofText? rfl patch.notes
  by_cases capacity : "capacity" = column
  · subst capacity
    exact value_flagged .ofInteger? rfl patch.capacity
  by_cases updated : "updated_at" = column
  · subst updated
    rfl
  · simp [Update.over, deckUpdate, fieldOf, deckFields_eq, DeckPatch.apply, List.find?_cons, name,
      format, notes, capacity, updated]

end CardInventory.Database
