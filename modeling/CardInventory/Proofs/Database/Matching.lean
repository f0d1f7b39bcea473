import CardInventory.Database.Record
import CardInventory.Proofs.Database.Criteria

/-!
# A filter and its criteria

What the criteria of a filter say of a printing and its faces when their text is read is what
the filter says of the printing in memory. The text is made from the names of the criteria
alone, with one placeholder for each that is set, and the values are bound in their order.
-/

namespace CardInventory.Database

open Text

/-! ## Values and placeholders -/

/-- The values of the criteria that are set, in the order of their conditions. -/
def criterionValues (filter : Filter) : List Value :=
  (filter.name.map Value.text).toList ++ (filter.rarity.map Value.text).toList ++
    (filter.setCode.map Value.text).toList ++ (filter.rulesText.map Value.text).toList ++
    (filter.manaValue.map Value.real).toList ++ (filter.typeLine.map Value.text).toList

/-- Which criteria are set, in the order of their conditions. -/
def setCriteria (filter : Filter) : List Bool :=
  [filter.name.isSome, filter.rarity.isSome, filter.setCode.isSome, filter.rulesText.isSome,
    filter.manaValue.isSome, filter.typeLine.isSome]

theorem appended_holds (comparisons : List Comparison) :
    appended (comparisons.map .holds) = Comparison.conjoined comparisons := by
  rw [appended, List.flatMap_map]
  rfl

/-- The criteria of a card, and those of its faces in one condition. -/
theorem criteria_eq (filter : Filter) :
    criteria filter = Comparison.conjoined (cardComparisons filter) ++
      if filter.concernsFaces then
        .words " AND " :: (Condition.someFace (faceComparisons filter)).pieces
      else [] := by
  have split : criteria filter = appended (conditions filter) := rfl
  rw [split, conditions, appended, List.flatMap_append, ← appended, appended_holds]
  split <;> simp

theorem conjoined_append (front back : List Comparison) :
    Comparison.conjoined (front ++ back) =
      Comparison.conjoined front ++ Comparison.conjoined back :=
  List.flatMap_append

/-- No comparison of a face is there where no criterion is about faces. -/
theorem faceComparisons_eq_nil {filter : Filter} (none : filter.concernsFaces = false) :
    faceComparisons filter = [] := by
  simp only [Filter.concernsFaces, Bool.or_eq_false_iff, Option.isSome_eq_false_iff,
    Option.isNone_iff_eq_none] at none
  obtain ⟨⟨rulesText, manaValue⟩, typeLine⟩ := none
  simp [faceComparisons, rulesText, manaValue, typeLine]

/-! ## Values -/

theorem values_part {α : Type} (criterion : Option α) {comparison : α → Comparison}
    {value : α → Value}
    (binds : ∀ wanted, Piece.values (comparison wanted).pieces = [value wanted]) :
    Piece.values (Comparison.conjoined (criterion.map comparison).toList) =
      (criterion.map value).toList := by
  cases criterion with
  | none => rfl
  | some wanted => simp [Comparison.conjoined, binds]

section Criterion

variable (named : Column)

theorem values_contains (criterion : Option String) :
    Piece.values (Comparison.conjoined (criterion.map (Comparison.contains named)).toList) =
      (criterion.map Value.text).toList :=
  values_part criterion fun _ => rfl

theorem values_equals (criterion : Option String) :
    Piece.values (Comparison.conjoined (criterion.map (Comparison.equals named)).toList) =
      (criterion.map Value.text).toList :=
  values_part criterion fun _ => rfl

theorem values_equalsReal (criterion : Option Float) :
    Piece.values (Comparison.conjoined (criterion.map (Comparison.equalsReal named)).toList) =
      (criterion.map Value.real).toList :=
  values_part criterion fun _ => rfl

end Criterion

/-- The criteria bind the values of those that are set. -/
theorem values_criteria (filter : Filter) :
    Piece.values (criteria filter) = criterionValues filter := by
  have face : Piece.values (if filter.concernsFaces then
        .words " AND " :: (Condition.someFace (faceComparisons filter)).pieces else []) =
      Piece.values (Comparison.conjoined (faceComparisons filter)) := by
    cases concerns : filter.concernsFaces with
    | true => simp [Condition.pieces]
    | false => simp [faceComparisons_eq_nil concerns, Comparison.conjoined]
  rw [criteria_eq, Piece.values_append, face]
  simp only [cardComparisons, faceComparisons, conjoined_append, Piece.values_append,
    values_contains, values_equals, values_equalsReal, criterionValues, List.append_assoc]

theorem length_criterionValues (filter : Filter) :
    (criterionValues filter).length = (setCriteria filter).count true := by
  have one : ∀ {α : Type} (criterion : Option α) (value : α → Value),
      (criterion.map value).toList.length = if criterion.isSome then 1 else 0 := by
    intro α criterion value
    cases criterion <;> rfl
  simp only [criterionValues, setCriteria, List.length_append, one, List.count_cons,
    List.count_nil, beq_true]
  omega

/-! ## Words -/

/-- The words of a piece, if it is made of words. -/
def Piece.words? : Piece → Option String
  | words text => some text
  | bound _ => none

/-- What pieces write is told by their words. -/
theorem Piece.writeAll_of_words {pieces others : List Piece}
    (same : pieces.map Piece.words? = others.map Piece.words?) (next : Nat) :
    writeAll next pieces = writeAll next others := by
  induction pieces generalizing others next with
  | nil =>
      obtain rfl := List.map_eq_nil_iff.mp same.symm
      rfl
  | cons piece rest ih =>
      obtain ⟨other, later, rfl, first, remaining⟩ := List.map_eq_cons_iff.mp same.symm
      cases piece <;> cases other <;> simp only [Piece.words?, reduceCtorEq, Option.some.injEq]
        at first
      · simp only [first, writeAll_cons, write, ih remaining.symm]
      · simp only [writeAll_cons, write, ih remaining.symm]

theorem words_part {α : Type} {criterion other : Option α} {comparison : α → Comparison}
    (same : other.isSome = criterion.isSome)
    (alike : ∀ wanted wanted', (comparison wanted).pieces.map Piece.words? =
      (comparison wanted').pieces.map Piece.words?) :
    (Comparison.conjoined (other.map comparison).toList).map Piece.words? =
      (Comparison.conjoined (criterion.map comparison).toList).map Piece.words? := by
  cases other <;> cases criterion <;> cases same
  · rfl
  · simpa [Comparison.conjoined] using alike _ _

/-- The words of the criteria are those of the ones that are set. -/
theorem words_criteria {filter other : Filter} (same : setCriteria other = setCriteria filter) :
    (criteria other).map Piece.words? = (criteria filter).map Piece.words? := by
  simp only [setCriteria, List.cons.injEq, and_true] at same
  obtain ⟨name, rarity, setCode, rulesText, manaValue, typeLine⟩ := same
  have concerns : other.concernsFaces = filter.concernsFaces := by
    simp only [Filter.concernsFaces, rulesText, manaValue, typeLine]
  have cards : (Comparison.conjoined (cardComparisons other)).map Piece.words? =
      (Comparison.conjoined (cardComparisons filter)).map Piece.words? := by
    simp only [cardComparisons, conjoined_append, List.map_append]
    congr 1
    · congr 1
      · exact words_part name fun _ _ => rfl
      · exact words_part rarity fun _ _ => rfl
    · exact words_part setCode fun _ _ => rfl
  have faces : (Comparison.conjoined (faceComparisons other)).map Piece.words? =
      (Comparison.conjoined (faceComparisons filter)).map Piece.words? := by
    simp only [faceComparisons, conjoined_append, List.map_append]
    congr 1
    · congr 1
      · exact words_part rulesText fun _ _ => rfl
      · exact words_part manaValue fun _ _ => rfl
    · exact words_part typeLine fun _ _ => rfl
  rw [criteria_eq, criteria_eq, concerns, List.map_append, List.map_append, cards]
  split
  · simp only [Condition.pieces, List.cons_append, List.map_cons, List.map_append, faces]
  · rfl

/-! ## Placeholders -/

/-- The number of a placeholder. -/
def Token.placeholder? : Token → Option Nat
  | .placeholder value => some value
  | .word _ | .number _ | .mark _ => none

/-- The numbers of the placeholders in a text. -/
def placeholders (text : String) : List Nat :=
  (tokens text).filterMap Token.placeholder?

/-- A piece has no placeholder among its words. -/
def Piece.bare : Piece → Bool
  | words text => (placeholders text).isEmpty
  | bound _ => true

theorem Piece.bare_of_tokens {text : String} {read : List Token} (reads : tokens text = read)
    (none : read.filterMap Token.placeholder? = []) : (words text).bare = true := by
  rw [bare, placeholders, reads, none, List.isEmpty_nil]

theorem Piece.placeholders_tokensFrom {pieces : List Piece} (next : Nat)
    (bare : ∀ piece ∈ pieces, piece.bare = true) :
    (tokensFrom next pieces).filterMap Token.placeholder? =
      List.range' next (values pieces).length := by
  induction pieces generalizing next with
  | nil => rfl
  | cons piece rest ih =>
      obtain ⟨first, others⟩ := List.forall_mem_cons.mp bare
      cases piece with
      | words text =>
          have none : (tokens text).filterMap Token.placeholder? = [] := by
            simpa [Piece.bare, placeholders] using first
          rw [tokensFrom_words, List.filterMap_append, none, ih next others]
          rfl
      | bound value =>
          simp [Token.placeholder?, ih (next + 1) others, List.range'_succ]

theorem Term.bare (term : Term) : ∀ piece ∈ term.pieces, piece.bare = true := by
  have lower := Piece.bare_of_tokens tokens_lower rfl
  have close := Piece.bare_of_tokens tokens_close rfl
  have strpos := Piece.bare_of_tokens tokens_strpos rfl
  have comma := Piece.bare_of_tokens tokens_comma rfl
  have zero := Piece.bare_of_tokens tokens_zero rfl
  induction term with
  | column named => simpa [pieces] using Piece.bare_of_tokens (tokens_name named) rfl
  | bound value => simp [pieces, Piece.bare]
  | lower inner ih => simpa [pieces, or_imp, forall_and, lower, close] using ih
  | position whole part ihWhole ihPart =>
      simpa [pieces, or_imp, forall_and, strpos, comma, close] using ⟨ihWhole, ihPart⟩
  | zero => simpa [pieces] using zero

theorem Comparison.bare (comparison : Comparison) :
    ∀ piece ∈ comparison.pieces, piece.bare = true := by
  have equal := Piece.bare_of_tokens tokens_equal rfl
  have greater := Piece.bare_of_tokens tokens_greater rfl
  cases comparison with
  | equal left right => simpa [pieces, or_imp, forall_and, equal] using ⟨left.bare, right.bare⟩
  | greater left right => simpa [pieces, or_imp, forall_and, greater] using ⟨left.bare, right.bare⟩

theorem bare_flatMap {α : Type} {pieces : α → List Piece}
    (bare : ∀ part, ∀ piece ∈ pieces part, piece.bare = true) (parts : List α) :
    ∀ piece ∈ parts.flatMap fun part => .words " AND " :: pieces part, piece.bare = true := by
  intro piece member
  obtain ⟨part, _, inside⟩ := List.mem_flatMap.mp member
  rcases List.mem_cons.mp inside with rfl | inner
  · exact Piece.bare_of_tokens tokens_and rfl
  · exact bare part piece inner

theorem Condition.bare (condition : Condition) :
    ∀ piece ∈ condition.pieces, piece.bare = true := by
  have opening : (Piece.words
      "EXISTS (SELECT 1 FROM card_faces f WHERE f.card_id = c.id").bare = true :=
    Piece.bare_of_tokens (tokens_ofList _) rfl
  have close := Piece.bare_of_tokens tokens_close rfl
  cases condition with
  | holds comparison => exact comparison.bare
  | someFace comparisons =>
      have inner : ∀ piece ∈ Comparison.conjoined comparisons, piece.bare = true :=
        bare_flatMap Comparison.bare comparisons
      simpa [pieces, or_imp, forall_and, opening, close] using inner

/-- The placeholders of the criteria are numbered one after another, one for each that is set. -/
theorem placeholders_criteria (filter : Filter) (next : Nat) :
    placeholders (Piece.writeAll next (criteria filter)) =
      List.range' next ((setCriteria filter).count true) := by
  have apart : (criteria filter).IsChain Piece.Apart :=
    (apart_flatMap fun condition _ => condition.apart).1
  have bare : ∀ piece ∈ criteria filter, piece.bare = true := bare_flatMap Condition.bare _
  rw [placeholders, Piece.tokens_writeAll apart, Piece.placeholders_tokensFrom next bare,
    values_criteria, length_criterionValues]

/-! ## What the criteria say -/

section Holds

variable {row : String → Value} {named : Column}

theorem contains_holds {value : Option String} (field : row named.name = .ofText? value)
    (text : String) :
    (Comparison.contains named text).test.holds row = Filter.contains value text := by
  cases value with
  | none =>
      simp [Comparison.contains, Comparison.test, Term.expression, Test.holds, Expression.value,
        field, Value.ofText?, Relation.holds, Filter.contains]
  | some whole =>
      rw [Bool.eq_iff_iff]
      simp [Comparison.contains, Comparison.test, Term.expression, Test.holds, Expression.value,
        field, Value.ofText?, Relation.holds, Filter.contains, Text.lower, position_pos_iff]

theorem equals_holds {value : Option String} (field : row named.name = .ofText? value)
    (text : String) :
    (Comparison.equals named text).test.holds row = Filter.equals value text := by
  cases value with
  | none =>
      simp [Comparison.equals, Comparison.test, Term.expression, Test.holds, Expression.value,
        field, Value.ofText?, Relation.holds, Filter.equals]
  | some whole =>
      rw [Bool.eq_iff_iff]
      simp [Comparison.equals, Comparison.test, Term.expression, Test.holds, Expression.value,
        field, Value.ofText?, Relation.holds, Filter.equals, Text.lower, String.ofList_inj]

theorem equalsReal_holds {value : Option Float} (field : row named.name = .ofReal? value)
    (wanted : Float) :
    (Comparison.equalsReal named wanted).test.holds row = value.any (· == wanted) := by
  cases value <;>
    simp [Comparison.equalsReal, Comparison.test, Term.expression, Test.holds, Expression.value,
      field, Value.ofReal?, Relation.holds]

end Holds

theorem all_toList_map {α β : Type} (criterion : Option α) (comparison : α → β) (holds : β → Bool) :
    (criterion.map comparison).toList.all holds =
      criterion.all fun wanted => holds (comparison wanted) := by
  cases criterion <;> simp

/-- The comparisons of a card say of its row what the filter says of it. -/
theorem cardComparisons_hold (filter : Filter) (card : CardDraft) :
    ((cardComparisons filter).all fun comparison =>
        comparison.test.holds (fieldOf (cardFields card))) =
      (filter.name.all (Filter.contains (some card.name)) &&
        filter.rarity.all (Filter.equals card.rarity) &&
        filter.setCode.all (Filter.equals card.setCode)) := by
  have name : fieldOf (cardFields card) (Column.name .cardName) = .ofText? (some card.name) := rfl
  have rarity : fieldOf (cardFields card) (Column.name .rarity) = .ofText? card.rarity := rfl
  have setCode : fieldOf (cardFields card) (Column.name .setCode) = .ofText? card.setCode := rfl
  simp only [cardComparisons, List.all_append, all_toList_map, contains_holds name,
    equals_holds rarity, equals_holds setCode]

/-- The comparisons of a face say of its row what the filter says of it. -/
theorem faceComparisons_hold (filter : Filter) (card : CardDraft) (owner : Uuid) (face : Face) :
    ((faceComparisons filter).all fun comparison =>
        comparison.test.holds (fieldOf (faceFields owner face ++ cardFields card))) =
      filter.matchesFace face := by
  have rulesText : fieldOf (faceFields owner face ++ cardFields card) (Column.name .rulesText) =
      .ofText? face.rulesText := rfl
  have manaValue : fieldOf (faceFields owner face ++ cardFields card) (Column.name .manaValue) =
      .ofReal? face.manaValue := rfl
  have typeLine : fieldOf (faceFields owner face ++ cardFields card) (Column.name .typeLine) =
      .ofText? face.typeLine := rfl
  simp only [faceComparisons, List.all_append, all_toList_map, contains_holds rulesText,
    equalsReal_holds manaValue, contains_holds typeLine, Filter.matchesFace]

/-- The conditions of a filter say of a printing what the filter says of it with its faces. -/
theorem conditions_hold (filter : Filter) (card : CardDraft) (faces : List (Uuid × Face)) :
    ((conditions filter).map Condition.clause).all (Clause.holds card faces) =
      filter.matchesCard { card with faces := facesOf card.id faces } := by
  have owned : ∀ owner face,
      Test.holds (fieldOf (faceFields owner face ++ cardFields card))
        ⟨.equal, .column "f.card_id", .column "c.id"⟩ = decide (owner = card.id) := fun _ _ => rfl
  have cards : ((cardComparisons filter).map Condition.holds).all
      (fun condition => condition.clause.holds card faces) =
        (cardComparisons filter).all fun comparison =>
          comparison.test.holds (fieldOf (cardFields card)) := by
    rw [List.all_map]
    rfl
  have some : (Condition.someFace (faceComparisons filter)).clause.holds card faces =
      (facesOf card.id faces).any filter.matchesFace := by
    simp only [Condition.clause, Clause.holds, List.all_cons, owned, List.all_map,
      Function.comp_def, faceComparisons_hold, facesOf, List.any_map, List.any_filter]
  rw [List.all_map, Function.comp_def, conditions, List.all_append, cards, cardComparisons_hold,
    Filter.matchesCard]
  cases filter.concernsFaces <;> simp [some]

theorem facesOf_own (card : Uuid) (faces : List Face) :
    facesOf card (faces.map (card, ·)) = faces := by
  simp [facesOf, List.filter_map, Function.comp_def]

/-! ## The text of a filter -/

/-- In a query over a binder the user is bound first, and then come the criteria. -/
theorem written_binderQuery (columns : String) (user : Uuid) (filter : Filter) :
    Written.ofPieces (binderQuery columns user filter) =
      ⟨columns ++
          " FROM binder_entries b JOIN cards c ON c.id = b.card_id WHERE b.user_id = $1" ++
          Piece.writeAll 2 (criteria filter), .uuid user :: criterionValues filter⟩ := by
  have bound : (Piece.bound (.uuid user)).write 1 = ("$1", 2) := rfl
  have bindings : (binderQuery columns user filter).filterMap Piece.value? =
      .uuid user :: Piece.values (criteria filter) := rfl
  have joined : " FROM binder_entries b JOIN cards c ON c.id = b.card_id WHERE b.user_id = $1" =
      " FROM binder_entries b JOIN cards c ON c.id = b.card_id WHERE b.user_id = " ++ "$1" := by
    decide +kernel
  rw [Written.ofPieces, bindings, values_criteria, binderQuery, Piece.writeAll_cons,
    Piece.writeAll_cons, Piece.write, bound, joined]
  simp only [String.append_assoc]

/-- What the criteria of a filter say of a printing when their text is read, with the bound
values in place of the placeholders, is what the filter says of it: over the rows of its own
faces, and over the rows of any faces, of which only its own count. The values are those of the
criteria that are set, in their order, with as many placeholders numbered one after another. Of
two filters that set the same criteria the text is the same; and in a query over a binder the
user comes first. -/
theorem filters_agree (filter : Filter) (card : CardDraft) (before after : List Value) :
    let next := before.length + 1
    let text := Piece.writeAll next (criteria filter)
    let answer (faces : List (Uuid × Face)) : Option Bool :=
      (readCriteria (before ++ criterionValues filter ++ after) text).map fun clauses =>
        clauses.all (Clause.holds card faces)
    answer (card.faces.map (card.id, ·)) = some (filter.matchesCard card) ∧
      (∀ faces, answer faces =
        some (filter.matchesCard { card with faces := facesOf card.id faces })) ∧
      Piece.values (criteria filter) = criterionValues filter ∧
      placeholders text = List.range' next ((setCriteria filter).count true) ∧
      (∀ other, setCriteria other = setCriteria filter →
        Piece.writeAll next (criteria other) = text) ∧
      ∀ columns user, Written.ofPieces (binderQuery columns user filter) =
        ⟨columns ++
            " FROM binder_entries b JOIN cards c ON c.id = b.card_id WHERE b.user_id = $1" ++
            Piece.writeAll 2 (criteria filter), .uuid user :: criterionValues filter⟩ := by
  intro next text answer
  have values : Piece.values (criteria filter) = criterionValues filter := values_criteria filter
  have read : readCriteria (before ++ criterionValues filter ++ after) text =
      some ((conditions filter).map Condition.clause) :=
    readCriteria_appended (conditions filter) ⟨before, after, by rw [← values]; rfl, rfl⟩
  have answered : ∀ faces, answer faces =
      some (filter.matchesCard { card with faces := facesOf card.id faces }) := by
    intro faces
    simp only [answer, read, Option.map_some, conditions_hold]
  have own : answer (card.faces.map (card.id, ·)) = some (filter.matchesCard card) := by
    rw [answered, facesOf_own]
  exact ⟨own, answered, values, placeholders_criteria filter next,
    fun other same => Piece.writeAll_of_words (words_criteria same) next,
    fun columns user => written_binderQuery columns user filter⟩

/-- A rules text and a type line that are found on different faces find no printing. -/
theorem faces_searched_together :
    let face (index : Int) (name typeLine rulesText : String) : Face :=
      ⟨index, name, none, none, some typeLine, some rulesText, [], none, none, none⟩
    let card : CardDraft :=
      ⟨Uuid.ofNat 7, "Delver of Secrets", some "isd", none, some "common", none,
        [face 0 "Delver of Secrets" "Creature — Human Wizard" "Look at the top card.",
          face 1 "Insectile Aberration" "Creature — Human Insect" "Flying"]⟩
    let filter (typeLine : String) : Filter :=
      ⟨some "delver", some "FLYING", none, none, none, some typeLine⟩
    let text := Piece.writeAll 2 (criteria (filter "wizard"))
    let answer (typeLine : String) : Option Bool :=
      (readCriteria ([.uuid (Uuid.ofNat 1)] ++ criterionValues (filter typeLine) ++ []) text).map
        fun clauses => clauses.all (Clause.holds card (card.faces.map (card.id, ·)))
    text = " AND strpos(lower(c.name), lower($2)) > 0 AND EXISTS (SELECT 1 FROM card_faces f " ++
        "WHERE f.card_id = c.id AND strpos(lower(f.oracle_text), lower($3)) > 0 " ++
        "AND strpos(lower(f.type_line), lower($4)) > 0)" ∧
      answer "wizard" = some false ∧ answer "insect" = some true := by
  intro face card filter text answer
  have same : setCriteria (filter "insect") = setCriteria (filter "wizard") := rfl
  obtain ⟨apart, _, _, _, worded, _⟩ :=
    filters_agree (filter "wizard") card [.uuid (Uuid.ofNat 1)] []
  obtain ⟨together, _⟩ := filters_agree (filter "insect") card [.uuid (Uuid.ofNat 1)] []
  have written : Piece.writeAll 2 (criteria (filter "insect")) = text := worded _ same
  have unmatched : (filter "wizard").matchesCard card = false := by decide +kernel
  have matched : (filter "insect").matchesCard card = true := by decide +kernel
  refine ⟨by decide +kernel, unmatched ▸ apart, ?_⟩
  rw [← matched, ← together]
  simp only [answer, ← written]
  rfl

end CardInventory.Database
