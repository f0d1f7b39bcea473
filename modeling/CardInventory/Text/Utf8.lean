/-!
# Bytes and characters

Texts arrive as bytes in UTF-8. Decoding walks over the bytes once and yields a
character for every well-formed sequence and a gap for every longest part that
begins a sequence without finishing it. A strict reader refuses a text with a
gap, a lenient one puts the replacement character there.
-/

namespace CardInventory.Text

/-- Texts before they are decoded. -/
abbrev Bytes := List UInt8

/-- The bytes of a text. -/
def bytesOf (text : String) : Bytes :=
  text.toUTF8.toList

namespace Utf8

/-- A sequence that has begun: the range its next byte must lie in, how many
bytes are still to come, and the code point read so far. -/
structure Pending where
  low : Nat
  high : Nat
  left : Nat
  code : Nat
  deriving DecidableEq

/-- What a byte means where no sequence is pending. -/
inductive Lead where
  | single (c : Char)
  | opens (pending : Pending)
  | stray
  deriving DecidableEq

/-- The reading of a byte at the start of a sequence. The ranges of the second
byte exclude overlong forms, surrogates and code points above U+10FFFF. -/
def lead (byte : UInt8) : Lead :=
  let b := byte.toNat
  if b < 0x80 then .single (Char.ofNat b)
  else if 0xC2 ≤ b ∧ b ≤ 0xDF then .opens ⟨0x80, 0xBF, 1, b - 0xC0⟩
  else if b = 0xE0 then .opens ⟨0xA0, 0xBF, 2, b - 0xE0⟩
  else if b = 0xED then .opens ⟨0x80, 0x9F, 2, b - 0xE0⟩
  else if 0xE1 ≤ b ∧ b ≤ 0xEF then .opens ⟨0x80, 0xBF, 2, b - 0xE0⟩
  else if b = 0xF0 then .opens ⟨0x90, 0xBF, 3, b - 0xF0⟩
  else if 0xF1 ≤ b ∧ b ≤ 0xF3 then .opens ⟨0x80, 0xBF, 3, b - 0xF0⟩
  else if b = 0xF4 then .opens ⟨0x80, 0x8F, 3, b - 0xF0⟩
  else .stray

/-- The characters of a byte text, with `none` for each gap. -/
def decode : Option Pending → Bytes → List (Option Char)
  | none, [] => []
  | some _, [] => [none]
  | none, byte :: rest =>
      match lead byte with
      | .single c => some c :: decode none rest
      | .opens pending => decode (some pending) rest
      | .stray => none :: decode none rest
  | some pending, byte :: rest =>
      if pending.low ≤ byte.toNat ∧ byte.toNat ≤ pending.high then
        let code := pending.code * 64 + (byte.toNat - 0x80)
        if pending.left ≤ 1 then
          some (Char.ofNat code) :: decode none rest
        else
          decode (some ⟨0x80, 0xBF, pending.left - 1, code⟩) rest
      else
        none ::
          match lead byte with
          | .single c => some c :: decode none rest
          | .opens begun => decode (some begun) rest
          | .stray => none :: decode none rest

/-- The replacement character. -/
def replacement : Char := Char.ofNat 0xFFFD

end Utf8

/-- Decode a text that must be well-formed. -/
def decodeStrict (bytes : Bytes) : Option String :=
  ((Utf8.decode none bytes).mapM id).map String.ofList

/-- Decode a text, putting the replacement character where it is not well-formed. -/
def decodeLenient (bytes : Bytes) : String :=
  String.ofList ((Utf8.decode none bytes).map (·.getD Utf8.replacement))

end CardInventory.Text
