import CardInventory.Text.Blank
import CardInventory.Text.LowerCase.Table

/-!
# Lower-casing

Full lower-casing of a text as the Unicode standard defines it. Every letter is
mapped on its own except two: a capital I with a dot above becomes two
characters, and a capital sigma takes its final form when a cased letter stands
before it and none after it, case-ignorable characters not counted.
-/

namespace CardInventory.Text

namespace LowerCase

/-- The capital sigma, the only letter whose lower case depends on its neighbours. -/
def capitalSigma : Char := 'Σ'

/-- The lower case of a letter that does not depend on its neighbours. -/
def letter (c : Char) : List Char :=
  if c.toNat < 0x80 then
    [c.toLower]
  else if c = 'İ' then
    ['i', Char.ofNat 0x0307]
  else
    match runs.findSome? fun run => run.lower? c.toNat with
    | some code => [Char.ofNat code]
    | none => [c]

/-- The property `Cased`. -/
def isCased (c : Char) : Bool :=
  inRanges casedRanges c.toNat

/-- The property `Case_Ignorable`. -/
def isIgnorable (c : Char) : Bool :=
  inRanges ignorableRanges c.toNat

/-- The first character that is not case-ignorable is cased. -/
def meetsCased (cs : List Char) : Bool :=
  match cs.dropWhile isIgnorable with
  | c :: _ => isCased c
  | [] => false

/-- The lower case of a sigma between the reversed text before it and the text after it. -/
def sigma (before after : List Char) : Char :=
  if meetsCased before && !meetsCased after then 'ς' else 'σ'

/-- Lower-case a text from left to right, with the text already passed in reverse. -/
def chars (before : List Char) : List Char → List Char
  | [] => []
  | c :: rest =>
      (if c = capitalSigma then [sigma before rest] else letter c) ++ chars (c :: before) rest

end LowerCase

/-- The lower case of a list of characters. -/
def lowerChars (cs : List Char) : List Char :=
  LowerCase.chars [] cs

/-- The lower case of a text. -/
def lower (text : String) : String :=
  String.ofList (lowerChars text.toList)

/-- Whether `needle` stands somewhere in `haystack`, character by character. -/
def occursIn (needle : List Char) : List Char → Bool
  | [] => needle.isEmpty
  | c :: rest => needle.isPrefixOf (c :: rest) || occursIn needle rest

end CardInventory.Text
