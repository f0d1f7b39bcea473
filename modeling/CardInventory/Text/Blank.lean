/-!
# Blank characters

Names, formats and search criteria are compared after the characters of the
Unicode property `White_Space` have been removed from both ends. Trimming is
stated on the list of characters, where the part kept and the parts dropped
add up to the whole text.
-/

namespace CardInventory.Text

/-- The ranges of the Unicode property `White_Space`, first and last code point. -/
def blankRanges : List (Nat × Nat) :=
  [(0x0009, 0x000D), (0x0020, 0x0020), (0x0085, 0x0085), (0x00A0, 0x00A0), (0x1680, 0x1680),
    (0x2000, 0x200A), (0x2028, 0x2029), (0x202F, 0x202F), (0x205F, 0x205F), (0x3000, 0x3000)]

/-- Membership in a list of inclusive code point ranges. -/
def inRanges (ranges : List (Nat × Nat)) (code : Nat) : Bool :=
  ranges.any fun range => range.1 ≤ code && code ≤ range.2

/-- A character is blank when it has the property `White_Space`. -/
def isBlank (c : Char) : Bool :=
  inRanges blankRanges c.toNat

/-- Drop the blank characters at the front. -/
def trimFront (cs : List Char) : List Char :=
  cs.dropWhile isBlank

/-- Drop the blank characters at the back. -/
def trimBack (cs : List Char) : List Char :=
  (cs.reverse.dropWhile isBlank).reverse

/-- Drop the blank characters at both ends. -/
def trimChars (cs : List Char) : List Char :=
  trimBack (trimFront cs)

/-- A text without its blank ends. -/
def trim (text : String) : String :=
  String.ofList (trimChars text.toList)

/-- A text is blank when nothing is left of it after trimming. -/
def isBlankText (text : String) : Bool :=
  (trim text).isEmpty

end CardInventory.Text
