import CardInventory.Proofs.Database.Expression
import Mathlib.Data.List.Chain

/-!
# Reading criteria

The conditions that a filter appends to a statement are read back from their text, with the
values that are bound to its placeholders. A condition is a comparison over the row of a
printing, or comparisons that must all hold over the row of one face. What is read of the text
of conditions are the conditions themselves, whatever values they bind.
-/

namespace CardInventory.Database

open Text

/-! ## Conditions -/

/-- How the values of two expressions are compared. -/
inductive Relation where
  | equal
  | greater
  deriving DecidableEq

/-- A comparison that is read. -/
structure Test where
  relation : Relation
  left : Expression
  right : Expression

/-- A condition that is read: of a card, or of some of its faces. -/
inductive Clause where
  | test (test : Test)
  | someFace (tests : List Test)

/-- Whether a comparison is true. None with null is. -/
def Relation.holds : Relation → Value → Value → Bool
  | .equal, .text left, .text right => left = right
  | .equal, .real left, .real right => left == right
  | .equal, .integer left, .integer right => left = right
  | .equal, .uuid left, .uuid right => left = right
  | .greater, .integer left, .integer right => right < left
  | _, _, _ => false

/-- Whether a comparison is true of a row. -/
def Test.holds (row : String → Value) (test : Test) : Bool :=
  test.relation.holds (test.left.value row) (test.right.value row)

/-- The value under a name; null where there is none. -/
def fieldOf (fields : List (String × Value)) (name : String) : Value :=
  ((fields.find? fun field => field.1 = name).map Prod.snd).getD .null

/-- The row of a printing. -/
def cardFields (card : CardDraft) : List (String × Value) :=
  ["c.id", "c.name", "c.set_code", "c.collector_number", "c.rarity", "c.layout"].zip
    [.uuid card.id, .text card.name, .ofText? card.setCode, .ofText? card.collectorNumber,
      .ofText? card.rarity, .ofText? card.layout]

/-- The row of a face, which is inserted for a card. -/
def faceFields (card : Uuid) (face : Face) : List (String × Value) :=
  ["f.card_id", "f.face_index", "f.name", "f.mana_cost", "f.cmc", "f.type_line", "f.oracle_text",
    "f.colors", "f.power", "f.toughness", "f.image_url"].zip (Statement.faceValues card face)

/-- Whether a condition is true of a printing, over the rows of all faces. -/
def Clause.holds (card : CardDraft) (faces : List (Uuid × Face)) : Clause → Bool
  | .test single => single.holds (fieldOf (cardFields card))
  | .someFace tests => faces.any fun (owner, face) =>
      tests.all fun single => single.holds (fieldOf (faceFields owner face ++ cardFields card))

/-! ## Reading conditions -/

/-- Read a comparison and what follows it. -/
def readTest (bound : List Value) (fuel : Nat) (tokens : List Token) :
    Option (Test × List Token) := do
  let (left, rest) ← expression bound fuel tokens
  match rest with
  | .mark '=' :: rest => do
      let (right, rest) ← expression bound fuel rest
      return (⟨.equal, left, right⟩, rest)
  | .mark '>' :: rest => do
      let (right, rest) ← expression bound fuel rest
      return (⟨.greater, left, right⟩, rest)
  | _ => none

/-- Read as many more comparisons as there are, and what follows them. -/
def readTests (bound : List Value) : Nat → List Token → Option (List Test × List Token)
  | fuel + 1, .word "AND" :: rest => do
      let (first, rest) ← readTest bound fuel rest
      let (others, rest) ← readTests bound fuel rest
      return (first :: others, rest)
  | _, rest => some ([], rest)

/-- Read what must come next. -/
def skipAll : List Token → List Token → Option (List Token)
  | [], rest => some rest
  | token :: others, rest => (skip token rest).bind (skipAll others)

/-- Read a condition and what follows it. -/
def readClause (bound : List Value) (fuel : Nat) :
    List Token → Option (Clause × List Token)
  | .word "EXISTS" :: rest => do
      let rest ← skipAll (tokens "(SELECT 1 FROM card_faces f WHERE") rest
      let (first, rest) ← readTest bound fuel rest
      let (others, rest) ← readTests bound fuel rest
      return (.someFace (first :: others), ← skip (.mark ')') rest)
  | rest => do
      let (test, rest) ← readTest bound fuel rest
      return (.test test, rest)

/-- Read the conditions of which each is appended to the ones before. -/
def readClauses (bound : List Value) : Nat → List Token → Option (List Clause)
  | _, [] => some []
  | fuel + 1, .word "AND" :: rest => do
      let (first, rest) ← readClause bound fuel rest
      return first :: (← readClauses bound fuel rest)
  | _, _ => none

/-- The conditions a text appends to a statement with bound values. -/
def readCriteria (bound : List Value) (text : String) : Option (List Clause) :=
  readClauses bound (tokens text).length (tokens text)

/-! ## What is read -/

/-- The values in a row, of which the first belongs to a placeholder. -/
def Supplies (bound : List Value) (next : Nat) (values : List Value) : Prop :=
  ∃ before after, bound = before ++ values ++ after ∧ next = before.length + 1

theorem Supplies.append {bound front back : List Value} {next : Nat}
    (supplies : Supplies bound next (front ++ back)) :
    Supplies bound next front ∧ Supplies bound (next + front.length) back := by
  obtain ⟨before, after, rfl, rfl⟩ := supplies
  refine ⟨⟨before, back ++ after, by simp, rfl⟩, ⟨before ++ front, after, by simp, ?_⟩⟩
  simp only [List.length_append]
  omega

theorem Supplies.single {bound : List Value} {next : Nat} {value : Value}
    (supplies : Supplies bound next [value]) :
    ∃ number, next = number + 1 ∧ bound[number]? = some value := by
  obtain ⟨before, after, rfl, rfl⟩ := supplies
  exact ⟨before.length, rfl, by simp⟩

/-- The expression that is read of a term. -/
def Term.expression : Term → Expression
  | column named => .column named.name
  | bound value => .constant value
  | lower inner => .lower inner.expression
  | position whole part => .position whole.expression part.expression
  | zero => .constant (.integer 0)

/-- The comparison that is read of a comparison. -/
def Comparison.test : Comparison → Test
  | equal left right => ⟨.equal, left.expression, right.expression⟩
  | greater left right => ⟨.greater, left.expression, right.expression⟩

/-- The condition that is read of a condition. A face is one of the card. -/
def Condition.clause : Condition → Clause
  | holds comparison => .test comparison.test
  | someFace comparisons =>
      .someFace (⟨.equal, .column "f.card_id", .column "c.id"⟩ :: comparisons.map Comparison.test)

/-! ## Reading back -/

theorem tokens_name (named : Column) : tokens named.name = [.word named.name] := by
  cases named <;> exact (tokens_ofList _).trans rfl

theorem tokens_lower : tokens "lower(" = [.word "lower", .mark '('] :=
  (tokens_ofList _).trans rfl

theorem tokens_strpos : tokens "strpos(" = [.word "strpos", .mark '('] :=
  (tokens_ofList _).trans rfl

theorem tokens_comma : tokens ", " = [.mark ','] :=
  (tokens_ofList _).trans rfl

theorem tokens_close : tokens ")" = [.mark ')'] :=
  (tokens_ofList _).trans rfl

theorem tokens_zero : tokens "0" = [.number 0] :=
  (tokens_ofList _).trans rfl

theorem tokens_equal : tokens " = " = [.mark '='] :=
  (tokens_ofList _).trans rfl

theorem tokens_greater : tokens " > " = [.mark '>'] :=
  (tokens_ofList _).trans rfl

theorem tokens_and : tokens " AND " = [.word "AND"] :=
  (tokens_ofList _).trans rfl

/-- A term is read as itself, wherever its values are bound. -/
theorem Term.reads (term : Term) {bound : List Value} {next fuel : Nat}
    (supplies : Supplies bound next (Piece.values term.pieces))
    (enough : (Piece.tokensFrom next term.pieces).length ≤ fuel) (others : List Token) :
    Database.expression bound fuel (Piece.tokensFrom next term.pieces ++ others) =
      some (term.expression, others) := by
  induction term generalizing next fuel others with
  | column named =>
      simp only [pieces, Piece.tokensFrom_words, tokens_name, Piece.tokensFrom_nil,
        List.append_nil, List.length_singleton] at enough ⊢
      obtain ⟨fuel, rfl⟩ := Nat.exists_eq_add_of_le' enough
      cases named <;> simp [Database.expression, Column.name, Term.expression]
  | bound value =>
      obtain ⟨number, rfl, found⟩ := supplies.single
      simp only [pieces, Piece.tokensFrom_bound, Piece.tokensFrom_nil, List.length_singleton]
        at enough ⊢
      obtain ⟨fuel, rfl⟩ := Nat.exists_eq_add_of_le' enough
      simp [Database.expression, found, Term.expression]
  | lower inner ih =>
      simp only [pieces, List.cons_append, Piece.tokensFrom_words, Piece.tokensFrom_append,
        tokens_lower, tokens_close, Piece.values_words, Piece.values_append, Piece.values_nil,
        List.append_nil, Piece.tokensFrom_nil, List.length_append, List.length_cons,
        List.length_nil] at supplies enough ⊢
      obtain ⟨fuel, rfl⟩ := Nat.exists_eq_add_of_le' (show 1 ≤ fuel by omega)
      have fits : (Piece.tokensFrom next inner.pieces).length ≤ fuel := by omega
      simp [Database.expression, skip, ih supplies fits, Term.expression]
  | position whole part ihWhole ihPart =>
      simp only [pieces, List.cons_append, List.append_assoc, Piece.tokensFrom_words,
        Piece.tokensFrom_append, tokens_strpos, tokens_comma, tokens_close, Piece.values_words,
        Piece.values_append, Piece.values_nil, List.append_nil, Piece.tokensFrom_nil,
        List.length_append, List.length_cons, List.length_nil] at supplies enough ⊢
      obtain ⟨suppliesWhole, suppliesPart⟩ := supplies.append
      obtain ⟨fuel, rfl⟩ := Nat.exists_eq_add_of_le' (show 1 ≤ fuel by omega)
      have fitsWhole : (Piece.tokensFrom next whole.pieces).length ≤ fuel := by omega
      have fitsPart : (Piece.tokensFrom (next + (Piece.values whole.pieces).length)
        part.pieces).length ≤ fuel := by omega
      simp [Database.expression, skip, ihWhole suppliesWhole fitsWhole,
        ihPart suppliesPart fitsPart, Term.expression]
  | zero =>
      simp only [pieces, Piece.tokensFrom_words, tokens_zero, Piece.tokensFrom_nil,
        List.append_nil, List.length_singleton] at enough ⊢
      obtain ⟨fuel, rfl⟩ := Nat.exists_eq_add_of_le' enough
      simp [Database.expression, Term.expression]

theorem Comparison.reads (comparison : Comparison) {bound : List Value} {next fuel : Nat}
    (supplies : Supplies bound next (Piece.values comparison.pieces))
    (enough : (Piece.tokensFrom next comparison.pieces).length ≤ fuel) (others : List Token) :
    readTest bound fuel (Piece.tokensFrom next comparison.pieces ++ others) =
      some (comparison.test, others) := by
  cases comparison with
  | equal left right | greater left right =>
      simp only [pieces, Piece.tokensFrom_append, Piece.tokensFrom_words, tokens_equal,
        tokens_greater, Piece.values_append, Piece.values_words, List.length_append,
        List.length_cons, List.append_assoc, List.cons_append, List.nil_append]
        at supplies enough ⊢
      obtain ⟨suppliesLeft, suppliesRight⟩ := supplies.append
      have fitsLeft : (Piece.tokensFrom next left.pieces).length ≤ fuel := by omega
      have fitsRight : (Piece.tokensFrom (next + (Piece.values left.pieces).length)
        right.pieces).length ≤ fuel := by omega
      simp [readTest, left.reads suppliesLeft fitsLeft, right.reads suppliesRight fitsRight, test]

theorem Comparison.reads_conjoined (comparisons : List Comparison) {bound : List Value}
    {next fuel : Nat}
    (supplies : Supplies bound next (Piece.values (Comparison.conjoined comparisons)))
    (enough : (Piece.tokensFrom next (Comparison.conjoined comparisons)).length ≤ fuel)
    (others : List Token) :
    readTests bound fuel
        (Piece.tokensFrom next (Comparison.conjoined comparisons) ++ .mark ')' :: others) =
      some (comparisons.map Comparison.test, .mark ')' :: others) := by
  induction comparisons generalizing next fuel with
  | nil => cases fuel <;> rfl
  | cons comparison rest ih =>
      have split : Comparison.conjoined (comparison :: rest) =
          .words " AND " :: (comparison.pieces ++ Comparison.conjoined rest) := rfl
      simp only [split, Piece.tokensFrom_words, Piece.tokensFrom_append, tokens_and,
        Piece.values_words, Piece.values_append, List.cons_append, List.nil_append,
        List.length_cons, List.length_append, List.append_assoc] at supplies enough ⊢
      obtain ⟨suppliesFirst, suppliesRest⟩ := supplies.append
      obtain ⟨fuel, rfl⟩ := Nat.exists_eq_add_of_le' (show 1 ≤ fuel by omega)
      have fitsFirst : (Piece.tokensFrom next comparison.pieces).length ≤ fuel := by omega
      have fitsRest : (Piece.tokensFrom (next + (Piece.values comparison.pieces).length)
        (Comparison.conjoined rest)).length ≤ fuel := by omega
      simp [readTests, comparison.reads suppliesFirst fitsFirst, ih suppliesRest fitsRest]

theorem tokens_someFace :
    tokens "EXISTS (SELECT 1 FROM card_faces f WHERE f.card_id = c.id" =
      .word "EXISTS" :: (tokens "(SELECT 1 FROM card_faces f WHERE" ++
        [.word "f.card_id", .mark '=', .word "c.id"]) := by
  rw [tokens_ofList, tokens_ofList]
  rfl

theorem skipAll_append (front others : List Token) :
    skipAll front (front ++ others) = some others := by
  induction front with
  | nil => rfl
  | cons token front ih => simpa [skipAll, skip] using ih

/-- A comparison begins with no word that begins a condition on faces. -/
theorem Comparison.reads_clause (comparison : Comparison) (bound : List Value) (next fuel : Nat)
    (others : List Token) :
    readClause bound fuel (Piece.tokensFrom next comparison.pieces ++ others) =
      (readTest bound fuel (Piece.tokensFrom next comparison.pieces ++ others)).map
        fun read => (.test read.1, read.2) := by
  have opening : ∀ term : Term, ∃ token rest, Piece.tokensFrom next term.pieces = token :: rest ∧
      token ≠ .word "EXISTS" := by
    intro term
    cases term with
    | column named =>
        refine ⟨.word named.name, [], ?_, by cases named <;> decide⟩
        simp [Term.pieces, tokens_name]
    | bound value => exact ⟨.placeholder next, [], rfl, nofun⟩
    | lower inner => exact ⟨.word "lower", _, by simp [Term.pieces, tokens_lower]; rfl, by decide⟩
    | position whole part =>
        exact ⟨.word "strpos", _, by simp [Term.pieces, tokens_strpos]; rfl, by decide⟩
    | zero => exact ⟨.number 0, [], by simp [Term.pieces, tokens_zero], by decide⟩
  have begins : ∃ token rest, Piece.tokensFrom next comparison.pieces = token :: rest ∧
      token ≠ .word "EXISTS" := by
    cases comparison with
    | equal left right | greater left right =>
        obtain ⟨token, rest, first, other⟩ := opening left
        exact ⟨token, _, by rw [pieces, Piece.tokensFrom_append, first]; rfl, other⟩
  obtain ⟨token, rest, first, other⟩ := begins
  rw [first, List.cons_append, readClause]
  · cases readTest bound fuel (token :: (rest ++ others)) <;> rfl
  · exact fun rest' same => other (List.cons.inj same).1

theorem Condition.reads (condition : Condition) {bound : List Value} {next fuel : Nat}
    (supplies : Supplies bound next (Piece.values condition.pieces))
    (enough : (Piece.tokensFrom next condition.pieces).length ≤ fuel) (others : List Token) :
    readClause bound fuel (Piece.tokensFrom next condition.pieces ++ others) =
      some (condition.clause, others) := by
  cases condition with
  | holds comparison =>
      simp only [pieces] at supplies enough ⊢
      rw [comparison.reads_clause, comparison.reads supplies enough]
      rfl
  | someFace comparisons =>
      simp only [pieces, List.cons_append, Piece.tokensFrom_words, tokens_someFace,
        Piece.tokensFrom_append, tokens_close, Piece.values_words, Piece.values_append,
        Piece.values_nil, Piece.tokensFrom_nil, List.append_nil, List.append_assoc,
        List.length_cons, List.length_append, List.length_nil, List.nil_append] at supplies enough ⊢
      obtain ⟨fuel, rfl⟩ := Nat.exists_eq_add_of_le' (show 1 ≤ fuel by omega)
      have fits : (Piece.tokensFrom next (Comparison.conjoined comparisons)).length ≤ fuel + 1 := by
        omega
      have owns : ∀ rest : List Token,
          readTest bound (fuel + 1) (.word "f.card_id" :: .mark '=' :: .word "c.id" :: rest) =
            some (⟨.equal, .column "f.card_id", .column "c.id"⟩, rest) := fun _ => rfl
      simp [readClause, skipAll_append, owns, Comparison.reads_conjoined comparisons supplies fits,
        skip, clause]

/-- The pieces of conditions, each behind the word that appends it. -/
def appended (conditions : List Condition) : List Piece :=
  conditions.flatMap fun condition => .words " AND " :: condition.pieces

theorem reads_appended (conditions : List Condition) {bound : List Value} {next fuel : Nat}
    (supplies : Supplies bound next (Piece.values (appended conditions)))
    (enough : (Piece.tokensFrom next (appended conditions)).length ≤ fuel) :
    readClauses bound fuel (Piece.tokensFrom next (appended conditions)) =
      some (conditions.map Condition.clause) := by
  induction conditions generalizing next fuel with
  | nil => cases fuel <;> rfl
  | cons condition rest ih =>
      have split : appended (condition :: rest) =
          .words " AND " :: (condition.pieces ++ appended rest) := rfl
      simp only [split, Piece.tokensFrom_words, Piece.tokensFrom_append, tokens_and,
        Piece.values_words, Piece.values_append, List.cons_append, List.nil_append,
        List.length_cons, List.length_append] at supplies enough ⊢
      obtain ⟨suppliesFirst, suppliesRest⟩ := supplies.append
      obtain ⟨fuel, rfl⟩ := Nat.exists_eq_add_of_le' (show 1 ≤ fuel by omega)
      have fitsFirst : (Piece.tokensFrom next condition.pieces).length ≤ fuel := by omega
      have fitsRest : (Piece.tokensFrom (next + (Piece.values condition.pieces).length)
        (appended rest)).length ≤ fuel := by omega
      simp [readClauses, condition.reads suppliesFirst fitsFirst, ih suppliesRest fitsRest]

/-! ## Pieces apart -/

/-- Pieces of which the first, if any, begins with a character that belongs to no word. -/
def OpensApart (pieces : List Piece) : Prop :=
  ∀ piece ∈ pieces.head?, piece.opens = true

theorem apart_append {front back : List Piece} (first : front.IsChain Piece.Apart)
    (second : back.IsChain Piece.Apart) (opens : OpensApart back) :
    (front ++ back).IsChain Piece.Apart :=
  List.isChain_append.mpr ⟨first, second, fun _ _ piece member => .inr (opens piece member)⟩

theorem apart_cons {piece : Piece} {rest : List Piece} (closes : piece.closes = true)
    (later : rest.IsChain Piece.Apart) : (piece :: rest).IsChain Piece.Apart :=
  List.isChain_cons.mpr ⟨fun _ _ => .inl closes, later⟩

theorem opensApart_words {text : String} (opens : (Piece.words text).opens = true)
    (rest : List Piece) : OpensApart (.words text :: rest) := by
  rintro piece ⟨⟩
  exact opens

theorem Term.apart (term : Term) : term.pieces.IsChain Piece.Apart := by
  have close : OpensApart [.words ")"] := opensApart_words (Piece.opens_ofList rfl) []
  induction term with
  | column named => exact List.isChain_singleton _
  | bound value => exact List.isChain_singleton _
  | lower inner ih =>
      exact apart_cons (Piece.closes_ofList rfl) (apart_append ih (List.isChain_singleton _) close)
  | position whole part ihWhole ihPart =>
      simp only [pieces, List.cons_append, List.append_assoc]
      refine apart_cons (Piece.closes_ofList rfl) (apart_append ihWhole ?_ ?_)
      · exact apart_cons (Piece.closes_ofList rfl)
          (apart_append ihPart (List.isChain_singleton _) close)
      · exact opensApart_words (Piece.opens_ofList rfl) _
  | zero => exact List.isChain_singleton _

theorem Comparison.apart (comparison : Comparison) :
    comparison.pieces.IsChain Piece.Apart := by
  cases comparison with
  | equal left right | greater left right =>
      refine apart_append left.apart (apart_cons (Piece.closes_ofList rfl) right.apart) ?_
      exact opensApart_words (Piece.opens_ofList rfl) _

/-- Parts each of which is behind the word that appends it are apart. -/
theorem apart_flatMap {α : Type} {pieces : α → List Piece} {parts : List α}
    (apart : ∀ part ∈ parts, (pieces part).IsChain Piece.Apart) :
    (parts.flatMap fun part => .words " AND " :: pieces part).IsChain Piece.Apart ∧
      OpensApart (parts.flatMap fun part => .words " AND " :: pieces part) := by
  induction parts with
  | nil => exact ⟨.nil, nofun⟩
  | cons part rest ih =>
      obtain ⟨first, others⟩ := List.forall_mem_cons.mp apart
      obtain ⟨later, opens⟩ := ih others
      exact ⟨apart_append (apart_cons (Piece.closes_ofList rfl) first) later opens,
        opensApart_words (Piece.opens_ofList rfl) _⟩

theorem Condition.apart (condition : Condition) : condition.pieces.IsChain Piece.Apart := by
  cases condition with
  | holds comparison => exact comparison.apart
  | someFace comparisons =>
      obtain ⟨apart, opens⟩ : (Comparison.conjoined comparisons).IsChain Piece.Apart ∧
          OpensApart (Comparison.conjoined comparisons) :=
        apart_flatMap fun comparison _ => comparison.apart
      have close : OpensApart [.words ")"] := opensApart_words (Piece.opens_ofList rfl) []
      refine List.isChain_cons.mpr ⟨fun piece member => .inr ?_,
        apart_append apart (List.isChain_singleton _) close⟩
      cases comparisons with
      | nil => exact close piece member
      | cons comparison rest => exact opens piece member

/-- The text of conditions is read as the conditions, with their values in place of the
placeholders. -/
theorem readCriteria_appended (conditions : List Condition) {bound : List Value} {next : Nat}
    (supplies : Supplies bound next (Piece.values (appended conditions))) :
    readCriteria bound (Piece.writeAll next (appended conditions)) =
      some (conditions.map Condition.clause) := by
  have apart : (appended conditions).IsChain Piece.Apart :=
    (apart_flatMap fun condition _ => condition.apart).1
  rw [readCriteria, Piece.tokens_writeAll apart]
  exact reads_appended conditions supplies (Nat.le_refl _)

end CardInventory.Database
