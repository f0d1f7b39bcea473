import CardInventory.Database.Statement
import Mathlib.Data.List.Basic

/-!
# Reading statements

The text of a statement is read back as what it says: words, numbers, marks and
placeholders first, and then expressions over the columns of a row, in which a
placeholder stands for the value that is bound to it. An expression has a value, which is
null wherever a function is applied to null. What the pieces of a statement write is read
as the pieces one after another, as long as no word of one runs into the next.
-/

namespace CardInventory.Database

open Text

/-! ## Tokens -/

/-- A part of the text of a statement. -/
inductive Token where
  | word (text : String)
  | number (value : Nat)
  | placeholder (number : Nat)
  | mark (char : Char)
  deriving DecidableEq

/-- Whether a character is part of a word, a number or a placeholder. -/
def isWordChar (c : Char) : Bool :=
  c.isAlphanum || c = '_' || c = '.' || c = '$'

/-- The token that characters without any other between them make up, if there are any. -/
def wordToken : List Char → List Token
  | [] => []
  | c :: rest =>
      if c = '$' then [.placeholder (Nat.ofDigitChars 10 rest 0)]
      else if (c :: rest).all Char.isDigit then [.number (Nat.ofDigitChars 10 (c :: rest) 0)]
      else [.word (String.ofList (c :: rest))]

/-- The tokens of a list of characters behind a part of a word. -/
def scan (passed : List Char) : List Char → List Token
  | [] => wordToken passed
  | c :: rest =>
      if isWordChar c then scan (passed ++ [c]) rest
      else wordToken passed ++ (if c.isWhitespace then [] else [.mark c]) ++ scan [] rest

/-- The tokens of a text. -/
def tokens (text : String) : List Token :=
  scan [] text.toList

/-- The tokens of a text whose characters are given. -/
theorem tokens_ofList (cs : List Char) : tokens (String.ofList cs) = scan [] cs := by
  rw [tokens, String.toList_ofList]

/-- A list of characters does not go on with a word. -/
def Stops (cs : List Char) : Prop :=
  ∀ c ∈ cs.head?, isWordChar c = false

/-- A list of characters ends with one that belongs to no word. -/
def Closes (cs : List Char) : Prop :=
  ∃ c ∈ cs.getLast?, isWordChar c = false

/-- Where a word cannot go on, the tokens of two texts are those of each. -/
theorem scan_append_of_stops {rest : List Char} (stops : Stops rest) (front passed : List Char) :
    scan passed (front ++ rest) = scan passed front ++ scan [] rest := by
  induction front generalizing passed with
  | nil =>
      cases rest with
      | nil => simp [scan, wordToken]
      | cons c rest =>
          have ends : isWordChar c = false := stops c rfl
          simp [scan, ends, wordToken]
  | cons c front ih =>
      simp only [List.cons_append, scan, ih]
      split <;> simp only [List.append_assoc]

theorem scan_append_of_closes {front : List Char} (closes : Closes front)
    (rest passed : List Char) :
    scan passed (front ++ rest) = scan passed front ++ scan [] rest := by
  induction front generalizing passed with
  | nil => simp [Closes] at closes
  | cons c front ih =>
      cases front with
      | nil =>
          have ends : isWordChar c = false := by simpa [Closes] using closes
          simp [scan, ends, wordToken]
      | cons next front =>
          have later : Closes (next :: front) := by simpa [Closes] using closes
          rw [List.cons_append, scan, scan]
          split
          · exact ih later _
          · simp only [ih later, List.append_assoc]

theorem scan_word {word : List Char} (plain : ∀ c ∈ word, isWordChar c = true)
    (passed : List Char) : scan passed word = wordToken (passed ++ word) := by
  induction word generalizing passed with
  | nil => simp [scan]
  | cons c word ih =>
      obtain ⟨first, others⟩ := List.forall_mem_cons.mp plain
      simp [scan, first, ih others]

theorem isWordChar_of_isDigit {c : Char} (digit : c.isDigit = true) : isWordChar c = true := by
  simp [isWordChar, Char.isAlphanum, digit]

/-- A placeholder is read as what it is. -/
theorem tokens_placeholder (number : Nat) : tokens s!"${number}" = [.placeholder number] := by
  have chars : (s!"${number}").toList = '$' :: Nat.toDigits 10 number := by
    simp [toString, Nat.repr]
  have plain : ∀ c ∈ '$' :: Nat.toDigits 10 number, isWordChar c = true := by
    refine List.forall_mem_cons.mpr ⟨by decide, fun c member => isWordChar_of_isDigit ?_⟩
    exact Nat.isDigit_of_mem_toDigits (by decide) (by decide) member
  rw [tokens, chars, scan_word plain]
  simp [wordToken, Nat.ofDigitChars_ten_toDigits]

/-! ## Pieces -/

namespace Piece

/-- The tokens of several pieces, each on its own, with placeholders numbered from `next`. -/
def tokensFrom (next : Nat) : List Piece → List Token
  | [] => []
  | words text :: rest => tokens text ++ tokensFrom next rest
  | bound _ :: rest => .placeholder next :: tokensFrom (next + 1) rest

/-- A piece begins with a character that belongs to no word. -/
def opens : Piece → Bool
  | words text => text.toList.head?.any fun c => !isWordChar c
  | bound _ => false

/-- A piece ends with a character that belongs to no word. -/
def closes : Piece → Bool
  | words text => text.toList.getLast?.any fun c => !isWordChar c
  | bound _ => false

theorem opens_ofList {cs : List Char} (first : (cs.head?.any fun c => !isWordChar c) = true) :
    (words (String.ofList cs)).opens = true := by
  rw [opens, String.toList_ofList, first]

theorem closes_ofList {cs : List Char} (last : (cs.getLast?.any fun c => !isWordChar c) = true) :
    (words (String.ofList cs)).closes = true := by
  rw [closes, String.toList_ofList, last]

/-- No word of one piece runs into another. -/
def Apart (left right : Piece) : Prop :=
  left.closes = true ∨ right.opens = true

/-- The values that pieces bind. -/
def values (pieces : List Piece) : List Value :=
  pieces.filterMap value?

@[simp]
theorem values_nil : values [] = [] :=
  rfl

@[simp]
theorem values_words (text : String) (rest : List Piece) :
    values (.words text :: rest) = values rest :=
  rfl

@[simp]
theorem values_bound (value : Value) (rest : List Piece) :
    values (.bound value :: rest) = value :: values rest :=
  rfl

@[simp]
theorem values_append (front back : List Piece) :
    values (front ++ back) = values front ++ values back :=
  List.filterMap_append

@[simp]
theorem tokensFrom_nil (next : Nat) : tokensFrom next [] = [] :=
  rfl

@[simp]
theorem tokensFrom_words (next : Nat) (text : String) (rest : List Piece) :
    tokensFrom next (.words text :: rest) = tokens text ++ tokensFrom next rest :=
  rfl

@[simp]
theorem tokensFrom_bound (next : Nat) (value : Value) (rest : List Piece) :
    tokensFrom next (.bound value :: rest) = .placeholder next :: tokensFrom (next + 1) rest :=
  rfl

@[simp]
theorem tokensFrom_append (next : Nat) (front back : List Piece) :
    tokensFrom next (front ++ back) =
      tokensFrom next front ++ tokensFrom (next + (values front).length) back := by
  induction front generalizing next with
  | nil => rfl
  | cons piece front ih =>
      cases piece with
      | words text => simp [ih]
      | bound value => simp [ih, Nat.add_assoc, Nat.add_comm 1]

theorem writeAll_cons (next : Nat) (piece : Piece) (rest : List Piece) :
    writeAll next (piece :: rest) = (piece.write next).1 ++ writeAll (piece.write next).2 rest :=
  rfl

theorem stops_of_opens {piece : Piece} (opens : piece.opens = true) (next : Nat)
    (rest : List Piece) : Stops (writeAll next (piece :: rest)).toList := by
  cases piece with
  | bound value => cases opens
  | words text =>
      rw [writeAll_cons, String.toList_append]
      cases chars : text.toList with
      | nil => simp [Piece.opens, chars] at opens
      | cons c chars' => simpa [Piece.opens, chars, Stops, write] using opens

/-- What pieces write is read as the pieces one after another, where each is apart from the
next. -/
theorem tokens_writeAll {pieces : List Piece} (apart : pieces.IsChain Apart) (next : Nat) :
    tokens (writeAll next pieces) = tokensFrom next pieces := by
  induction pieces generalizing next with
  | nil => rfl
  | cons piece rest ih =>
      have first : tokens (piece.write next).1 ++ tokensFrom (piece.write next).2 rest =
          tokensFrom next (piece :: rest) := by
        cases piece with
        | words text => rfl
        | bound value => exact congrArg (· ++ _) (tokens_placeholder next)
      rw [writeAll_cons, tokens, String.toList_append, ← first, ← ih apart.of_cons]
      cases rest with
      | nil => exact scan_append_of_stops (by simp [Stops, writeAll]) _ _
      | cons following rest =>
          rcases List.isChain_cons_cons.mp apart |>.1 with closes | opens
          · refine scan_append_of_closes ?_ _ _
            cases piece with
            | bound value => cases closes
            | words text => simpa [Piece.closes, Closes, write, Option.any_eq_true] using closes
          · exact scan_append_of_stops (stops_of_opens opens _ _) _ _

end Piece

/-! ## Expressions -/

/-- An expression over a row of named columns. -/
inductive Expression where
  | column (name : String)
  | constant (value : Value)
  | lower (inner : Expression)
  | position (whole part : Expression)
  | coalesce (first second : Expression)
  | choice (condition chosen other : Expression)

/-- The place of a text in another, counted from one; zero where it does not occur. -/
def position (part : List Char) : List Char → Nat
  | [] => if part.isEmpty then 1 else 0
  | c :: rest =>
      if part.isPrefixOf (c :: rest) then 1
      else if position part rest = 0 then 0
      else position part rest + 1

/-- A text occurs in another where it has a place. -/
theorem position_pos_iff (part whole : List Char) :
    0 < position part whole ↔ occursIn part whole = true := by
  induction whole with
  | nil => cases part <;> simp [position, occursIn]
  | cons c rest ih =>
      simp only [position, occursIn, Bool.or_eq_true, ← ih]
      by_cases front : part.isPrefixOf (c :: rest) = true
      · simp [front]
      · by_cases absent : position part rest = 0
        · simp [front, absent]
        · simp [front, absent, Nat.pos_iff_ne_zero]

/-- The value of an expression over a row. -/
def Expression.value (row : String → Value) : Expression → Value
  | column name => row name
  | constant value => value
  | lower inner =>
      match inner.value row with
      | .text text => .text (Text.lower text)
      | _ => .null
  | position whole part =>
      match whole.value row, part.value row with
      | .text whole, .text part => .integer (Database.position part.toList whole.toList)
      | _, _ => .null
  | coalesce first second =>
      match first.value row with
      | .null => second.value row
      | value => value
  | choice condition chosen other =>
      match condition.value row with
      | .flag true => chosen.value row
      | _ => other.value row

/-- What follows a token that must come next. -/
def skip (token : Token) : List Token → Option (List Token)
  | [] => none
  | first :: rest => if first = token then some rest else none

/-- Read an expression and what follows it. A placeholder stands for the value that is bound to
it, the first of the values to `$1`. Nesting is read as deep as `fuel`. -/
def expression (bound : List Value) : Nat → List Token → Option (Expression × List Token)
  | 0, _ => none
  | fuel + 1, .word text :: rest =>
      if text = "lower" then do
        let rest ← skip (.mark '(') rest
        let (inner, rest) ← expression bound fuel rest
        return (.lower inner, ← skip (.mark ')') rest)
      else if text = "strpos" then do
        let rest ← skip (.mark '(') rest
        let (whole, rest) ← expression bound fuel rest
        let rest ← skip (.mark ',') rest
        let (part, rest) ← expression bound fuel rest
        return (.position whole part, ← skip (.mark ')') rest)
      else if text = "COALESCE" then do
        let rest ← skip (.mark '(') rest
        let (first, rest) ← expression bound fuel rest
        let rest ← skip (.mark ',') rest
        let (second, rest) ← expression bound fuel rest
        return (.coalesce first second, ← skip (.mark ')') rest)
      else if text = "CASE" then do
        let rest ← skip (.word "WHEN") rest
        let (condition, rest) ← expression bound fuel rest
        let rest ← skip (.word "THEN") rest
        let (chosen, rest) ← expression bound fuel rest
        let rest ← skip (.word "ELSE") rest
        let (other, rest) ← expression bound fuel rest
        return (.choice condition chosen other, ← skip (.word "END") rest)
      else some (.column text, rest)
  | _ + 1, .number value :: rest => some (.constant (.integer value), rest)
  | _ + 1, .placeholder (number + 1) :: rest => do
      return (.constant (← bound[number]?), rest)
  | _ + 1, _ => none

end CardInventory.Database
