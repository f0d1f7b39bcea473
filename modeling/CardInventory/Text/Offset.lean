import CardInventory.Text.Utf8

/-!
# Offsets in bytes

A place in a text is told by the number of bytes in front of it. A word is looked
for among bytes, and a part is cut out of a text between two offsets. An offset may
lie inside a character; no part begins or ends there.
-/

namespace CardInventory.Text

/-- The offset of the first place at which a word stands among bytes. -/
def offset? (word : Bytes) : Bytes → Option Nat
  | [] => if word.isEmpty then some 0 else none
  | byte :: rest =>
      if word.isPrefixOf (byte :: rest) then some 0 else (offset? word rest).map (· + 1)

/-- The part of a text between two offsets. -/
def between? (text : String) (start stop : Nat) : Option String := do
  let first ← text.pos? ⟨start⟩
  let last ← text.pos? ⟨stop⟩
  if first ≤ last then some (text.extract first last) else none

end CardInventory.Text
