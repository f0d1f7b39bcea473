import CardInventory.Json.Basic
import CardInventory.Text.Utf8
import CardInventory.Width

/-!
# Reading JSON

Readers take a value from the front of a byte text. A text is refused for one of
three causes: it breaks the grammar, it ends too early, or it is JSON that does
not fit what is asked for. Which of them comes first decides the answer, so the
readers look at the bytes strictly from left to right. A value nobody asks for
is only skimmed: its brackets, literals and escapes must be in order, but its
strings need not be decodable and its nesting has no limit.
-/

namespace CardInventory.Json

open CardInventory.Text

/-- Why a text was refused. -/
inductive Fault where
  | malformed
  | truncated
  | unfit
  deriving DecidableEq, Repr

/-- A reader takes a value from the front of a text and leaves the rest. -/
abbrev Reader := StateT Bytes (Except Fault)

namespace Reader

/-- Refuse the text. -/
def refuse {α : Type} (fault : Fault) : Reader α :=
  fun _ => .error fault

/-- A byte as a character; the grammar only asks for characters below U+0080. -/
def symbol (byte : UInt8) : Char :=
  Char.ofNat byte.toNat

/-- The next byte, left where it is. -/
def peek : Reader (Option Char) :=
  fun bytes => .ok (bytes.head?.map symbol, bytes)

/-- Step over one byte. -/
def advance : Reader Unit :=
  fun bytes => .ok ((), bytes.tail)

/-- The white space of the grammar. -/
def isSpace (byte : UInt8) : Bool :=
  byte == 0x20 || byte == 0x0A || byte == 0x0D || byte == 0x09

/-- Step over white space. -/
def space : Reader Unit :=
  fun bytes => .ok ((), bytes.dropWhile isSpace)

/-- The next byte after white space, left where it is. -/
def token : Reader (Option Char) := do
  space
  peek

/-- Step over the given letters. -/
def spell : List Char → Reader Unit
  | [] => pure ()
  | letter :: rest => do
      match ← peek with
      | none => refuse .truncated
      | some c =>
          if c = letter then
            advance
            spell rest
          else
            refuse .malformed

end Reader

/-- A number of the grammar: a whole one within 64 bits, or a real one. -/
inductive Number where
  | integer (value : Int)
  | real (value : Float)

namespace Number

open Reader

/-- The greatest significand that is kept exactly. -/
def significandLimit : Nat := Width.values 64 - 1

/-- The greatest power of ten an exponent may spell. -/
def exponentLimit : Nat := Width.values 31 - 1

/-- Whether a byte is a decimal digit. -/
def isDigit (byte : UInt8) : Bool :=
  0x30 ≤ byte && byte ≤ 0x39

/-- The value of a digit. -/
def digit (byte : UInt8) : Nat :=
  byte.toNat - 0x30

/-- Append the digits at the front of a text to a significand as long as it stays
within its limit, and count them. -/
def absorb : Nat → Nat → Bytes → Nat × Nat × Bytes
  | value, taken, [] => (value, taken, [])
  | value, taken, byte :: rest =>
      if isDigit byte && value * 10 + digit byte ≤ significandLimit then
        absorb (value * 10 + digit byte) (taken + 1) rest
      else
        (value, taken, byte :: rest)

/-- A power of ten. -/
def powerOfTen (exponent : Nat) : Float :=
  Float.ofScientific 1 false exponent

/-- Scale a number by a power of ten in steps the format can hold; `steps` bounds
the divisions after which nothing is left of a 64-bit significand. -/
def scale : Nat → Float → Int → Except Fault Float
  | 0, value, _ => .ok value
  | steps + 1, value, exponent =>
      if exponent.natAbs ≤ 308 then
        if 0 ≤ exponent then
          let scaled := value * powerOfTen exponent.natAbs
          if scaled.isInf then .error .malformed else .ok scaled
        else
          .ok (value / powerOfTen exponent.natAbs)
      else if value == 0.0 then .ok value
      else if 0 ≤ exponent then .error .malformed
      else scale steps (value / powerOfTen 308) (exponent + 308)

/-- The real number with a sign, a significand and a power of ten. -/
def assemble (negative : Bool) (significand : Nat) (exponent : Int) : Except Fault Number :=
  (scale 4 (UInt64.ofNat significand).toFloat exponent).map fun value =>
    .real (if negative then -value else value)

/-- The part after an exponent mark. An exponent beyond its limit turns a number
into zero or out of range, whatever stands before it. -/
def exponentPart (negative : Bool) (significand : Nat) (start : Int) : Reader Number := do
  let down := (← peek) == some '-'
  if down || (← peek) == some '+' then
    advance
  fun bytes =>
    match bytes with
    | [] => .error .truncated
    | byte :: _ =>
        if isDigit byte then
          let digits := bytes.takeWhile isDigit
          let rest := bytes.dropWhile isDigit
          let power := digits.foldl (fun value byte => value * 10 + digit byte) 0
          if exponentLimit < power then
            if significand ≠ 0 ∧ !down then .error .malformed
            else .ok (.real (if negative then -0.0 else 0.0), rest)
          else
            (assemble negative significand (if down then start - power else start + power)).map
              (·, rest)
        else
          .error .malformed

/-- An optional exponent after the digits of a number that is not whole. -/
def exponentOrEnd (negative : Bool) (significand : Nat) (start : Int) : Reader Number := do
  match ← peek with
  | some 'e' => advance; exponentPart negative significand start
  | some 'E' => advance; exponentPart negative significand start
  | _ => fun bytes => (assemble negative significand start).map (·, bytes)

/-- The part after a decimal point. Digits that do not fit the significand are
dropped. -/
def fractionPart (negative : Bool) (significand : Nat) (start : Int) : Reader Number :=
  fun bytes =>
    let (value, taken, rest) := absorb significand 0 bytes
    match rest with
    | [] =>
        if taken = 0 then .error .truncated
        else exponentOrEnd negative value (start - taken) rest
    | byte :: _ =>
        if isDigit byte then
          exponentOrEnd negative value (start - taken) (rest.dropWhile isDigit)
        else if taken = 0 then .error .malformed
        else exponentOrEnd negative value (start - taken) rest

/-- A number without fraction and exponent. A minus zero is not whole, and neither
is a negative number below 64 bits. -/
def whole (negative : Bool) (significand : Nat) : Number :=
  if negative then
    if significand = 0 ∨ Width.values 63 < significand then
      .real (-(UInt64.ofNat significand).toFloat)
    else
      .integer (-(significand : Int))
  else
    .integer significand

/-- What follows the digits in front of the point. `excess` counts the digits
that did not fit the significand. -/
def afterWhole (negative : Bool) (significand excess : Nat) : Reader Number := do
  match ← peek with
  | some '.' => advance; fractionPart negative significand excess
  | some 'e' => advance; exponentPart negative significand excess
  | some 'E' => advance; exponentPart negative significand excess
  | _ =>
      if excess = 0 then pure (whole negative significand)
      else fun bytes => (assemble negative significand excess).map (·, bytes)

/-- A number whose sign has been read. -/
def unsigned (negative : Bool) : Reader Number :=
  fun bytes =>
    match bytes with
    | [] => .error .truncated
    | byte :: rest =>
        if byte == 0x30 then
          if (rest.head?.map isDigit).getD false then .error .malformed
          else afterWhole negative 0 0 rest
        else if isDigit byte then
          let (value, _, tail) := absorb 0 0 bytes
          let excess := (tail.takeWhile isDigit).length
          afterWhole negative value excess (tail.dropWhile isDigit)
        else
          .error .malformed

end Number

namespace Reader

/-- Whether a character begins a number. -/
def opensNumber (c : Char) : Bool :=
  c = '-' || c.isDigit

/-- A number. -/
def number : Reader Number := do
  match ← peek with
  | some '-' => advance; Number.unsigned true
  | _ => Number.unsigned false

/-- The value of a hexadecimal digit. -/
def hexValue? (byte : UInt8) : Option Nat :=
  let code := byte.toNat
  if 0x30 ≤ code ∧ code ≤ 0x39 then some (code - 0x30)
  else if 0x41 ≤ code ∧ code ≤ 0x46 then some (code - 0x41 + 10)
  else if 0x61 ≤ code ∧ code ≤ 0x66 then some (code - 0x61 + 10)
  else none

/-- Four hexadecimal digits. -/
def hexUnit : Reader Nat
  | a :: b :: c :: d :: rest =>
      match [a, b, c, d].mapM hexValue? with
      | some digits => .ok (digits.foldl (fun value digit => value * 16 + digit) 0, rest)
      | none => .error .malformed
  | _ => .error .truncated

/-- The next byte inside a string must be the given one. -/
def insist (letter : Char) : Reader Unit := do
  match ← peek with
  | none => refuse .truncated
  | some c => if c = letter then advance else refuse .malformed

/-- The character a hexadecimal escape stands for; a pair of surrogates is one. -/
def unicodeEscape : Reader Char := do
  let first ← hexUnit
  if first < 0xD800 ∨ 0xDFFF < first then
    pure (Char.ofNat first)
  else if 0xDC00 ≤ first then
    refuse .malformed
  else do
    insist '\\'
    insist 'u'
    let second ← hexUnit
    if 0xDC00 ≤ second ∧ second ≤ 0xDFFF then
      pure (Char.ofNat ((first - 0xD800) * 0x400 + (second - 0xDC00) + 0x10000))
    else
      refuse .malformed

/-- The character of an escape of one letter. -/
def shortEscape? : Char → Option Char
  | '"' => some '"'
  | '\\' => some '\\'
  | '/' => some '/'
  | 'b' => some (Char.ofNat 0x08)
  | 'f' => some (Char.ofNat 0x0C)
  | 'n' => some '\n'
  | 'r' => some '\r'
  | 't' => some '\t'
  | _ => none

/-- The character an escape stands for, after its backslash. -/
def escaped : Reader Char := do
  match ← peek with
  | none => refuse .truncated
  | some 'u' => advance; unicodeEscape
  | some letter =>
      match shortEscape? letter with
      | some c => advance; pure c
      | none => refuse .malformed

/-- Step over an escape without asking what it stands for. -/
def skimEscape : Reader Unit := do
  match ← peek with
  | none => refuse .truncated
  | some 'u' => advance; discard hexUnit
  | some letter => if (shortEscape? letter).isSome then advance else refuse .malformed

/-- The bytes a string spells, up to and with its closing quote. Every step takes
at least one byte, so a list that is longer than the text outlasts them all. -/
def stringBytes : Bytes → Reader Bytes
  | [] => refuse .truncated
  | _ :: fuel => do
      match ← peek with
      | none => refuse .truncated
      | some '"' => advance; pure []
      | some '\\' =>
          advance
          let c ← escaped
          return bytesOf c.toString ++ (← stringBytes fuel)
      | some c =>
          if c.toNat < 0x20 then
            refuse .malformed
          else do
            advance
            return UInt8.ofNat c.toNat :: (← stringBytes fuel)

/-- Step over a string, up to and with its closing quote. -/
def skimString : Bytes → Reader Unit
  | [] => refuse .truncated
  | _ :: fuel => do
      match ← peek with
      | none => refuse .truncated
      | some '"' => advance
      | some '\\' =>
          advance
          skimEscape
          skimString fuel
      | some c =>
          if c.toNat < 0x20 then
            refuse .malformed
          else do
            advance
            skimString fuel

/-- A list one longer than the text that is left, which bounds the steps of a reader
that takes at least one byte with each of them. -/
def allowance : Reader Bytes :=
  fun bytes => .ok (0 :: bytes, bytes)

/-- A string after its opening quote. -/
def stringTail : Reader String := do
  let bytes ← stringBytes (← allowance)
  match decodeStrict bytes with
  | some value => pure value
  | none => refuse .malformed

/-- Refuse a value of the wrong kind. A scalar is read first, so that a fault in
its spelling comes before the fault of its kind. -/
def misfit {α : Type} : Reader α := do
  match ← peek with
  | some 'n' => advance; spell ['u', 'l', 'l']
  | some 't' => advance; spell ['r', 'u', 'e']
  | some 'f' => advance; spell ['a', 'l', 's', 'e']
  | some '"' => advance; discard stringTail
  | some '[' => pure ()
  | some '{' => pure ()
  | some c => if opensNumber c then discard number else refuse .malformed
  | none => refuse .malformed
  refuse .unfit

/-- The colon after a member's name. -/
def colon : Reader Unit := do
  match ← token with
  | some ':' => advance
  | some _ => refuse .malformed
  | none => refuse .truncated

/-- Whether another item of an array follows; the closing bracket is left. -/
def anotherItem (first : Bool) : Reader Bool := do
  match ← token with
  | none => refuse .truncated
  | some ']' => pure false
  | some c =>
      if first then
        pure true
      else if c = ',' then do
        advance
        match ← token with
        | some ']' => refuse .malformed
        | some _ => pure true
        | none => refuse .truncated
      else
        refuse .malformed

/-- The closing bracket of an array. -/
def closeArray : Reader Unit := do
  match ← token with
  | some ']' => advance
  | some _ => refuse .malformed
  | none => refuse .truncated

/-- The items of an array after its opening bracket, and the closing bracket. -/
def itemsOf {α : Type} (item : Reader α) : Bytes → Bool → Reader (List α)
  | [], _ => refuse .truncated
  | _ :: fuel, first => do
      if ← anotherItem first then
        let value ← item
        return value :: (← itemsOf item fuel false)
      else
        closeArray
        pure []

/-- The name of the next member of an object, or none at its closing brace. -/
def nextName (first : Bool) : Reader (Option String) := do
  match ← token with
  | none => refuse .truncated
  | some '}' => advance; pure none
  | some c =>
      if first then
        if c = '"' then do advance; some <$> stringTail else refuse .malformed
      else if c = ',' then do
        advance
        match ← token with
        | some '"' => advance; some <$> stringTail
        | some _ => refuse .malformed
        | none => refuse .truncated
      else
        refuse .malformed

/-- The members of an object after its opening brace, and the closing brace. Each
member is handled by `member` under its name. -/
def foldMembers {σ : Type} (member : σ → String → Reader σ) : Bytes → Bool → σ → Reader σ
  | [], _, _ => refuse .truncated
  | _ :: fuel, first, state => do
      match ← nextName first with
      | none => pure state
      | some name => do
          let state ← member state name
          foldMembers member fuel false state

/-- An array or an object that has been opened. -/
inductive Frame where
  | array
  | object
  deriving DecidableEq

/-- Where skimming stands: before a value, just inside a bracket, or behind a value. -/
inductive Phase where
  | value
  | opened
  | filled
  deriving DecidableEq

/-- The bracket that closes a frame. -/
def Frame.closing : Frame → Char
  | .array => ']'
  | .object => '}'

/-- Step over the name and colon in front of a member's value. -/
def skimName : Reader Unit := do
  match ← token with
  | some '"' => advance
  | some _ => refuse .malformed
  | none => refuse .truncated
  skimString (← allowance)
  colon

/-- Step over the start of an item in a frame. -/
def Frame.enter : Frame → Reader Unit
  | .array => pure ()
  | .object => skimName

/-- The digits of a number that is only skimmed; true when there is one. -/
def skimDigits : Reader Bool :=
  fun bytes => .ok ((bytes.head?.map Number.isDigit).getD false, bytes.dropWhile Number.isDigit)

/-- Step over an exponent. -/
def skimExponent : Reader Unit := do
  match ← peek with
  | some '+' => advance
  | some '-' => advance
  | _ => pure ()
  if !(← skimDigits) then
    refuse .malformed

/-- Step over an optional fraction and an optional exponent. -/
def skimFraction : Reader Unit := do
  if (← peek) == some '.' then
    advance
    if !(← skimDigits) then
      refuse .malformed
  match ← peek with
  | some 'e' => advance; skimExponent
  | some 'E' => advance; skimExponent
  | _ => pure ()

/-- Step over a number without its sign. -/
def skimNumber : Reader Unit := do
  match ← peek with
  | some '0' =>
      advance
      if ((← peek).map Char.isDigit).getD false then
        refuse .malformed
      else
        skimFraction
  | some c => if c.isDigit then do discard skimDigits; skimFraction else refuse .malformed
  | none => refuse .malformed

/-- Step over a value inside the given open frames, innermost first. -/
def skimWithin : Nat → Phase → List Frame → Reader Unit
  | 0, _, _ => refuse .truncated
  | fuel + 1, .value, frames => do
      match ← token with
      | none => refuse .truncated
      | some '[' => advance; skimWithin fuel .opened (.array :: frames)
      | some '{' => advance; skimWithin fuel .opened (.object :: frames)
      | some '"' => do
          advance
          skimString (← allowance)
          skimWithin fuel .filled frames
      | some 'n' => advance; spell ['u', 'l', 'l']; skimWithin fuel .filled frames
      | some 't' => advance; spell ['r', 'u', 'e']; skimWithin fuel .filled frames
      | some 'f' => advance; spell ['a', 'l', 's', 'e']; skimWithin fuel .filled frames
      | some '-' => advance; skimNumber; skimWithin fuel .filled frames
      | some c =>
          if c.isDigit then do
            skimNumber
            skimWithin fuel .filled frames
          else
            refuse .malformed
  | _ + 1, _, [] => pure ()
  | fuel + 1, phase, frame :: frames => do
      match ← token with
      | none => refuse .truncated
      | some c =>
          if c = frame.closing then do
            advance
            skimWithin fuel .filled frames
          else if phase = .opened then do
            frame.enter
            skimWithin fuel .value (frame :: frames)
          else if c = ',' then do
            advance
            frame.enter
            skimWithin fuel .value (frame :: frames)
          else
            refuse .malformed

/-- Step over a value nobody asks for. -/
def skim : Reader Unit := do
  skimWithin (2 * (← allowance).length) .value []

/-- Any value as a tree; `nested` reads the values inside its brackets, and without
it there must be none. -/
def treeOver (nested : Option (Reader Json)) : Reader Json := do
  match ← token, nested with
  | none, _ => refuse .truncated
  | some 'n', _ => advance; spell ['u', 'l', 'l']; pure .null
  | some 't', _ => advance; spell ['r', 'u', 'e']; pure (.flag true)
  | some 'f', _ => advance; spell ['a', 'l', 's', 'e']; pure (.flag false)
  | some '"', _ => advance; .text <$> stringTail
  | some '[', none => refuse .malformed
  | some '[', some nested => do
      advance
      .array <$> itemsOf nested (← allowance) true
  | some '{', none => refuse .malformed
  | some '{', some nested => do
      advance
      let add := fun (members : List (String × Json)) name => do
        colon
        return (name, ← nested) :: members
      return .object (← foldMembers add (← allowance) true []).reverse
  | some c, _ =>
      if opensNumber c then do
        match ← number with
        | .integer value => pure (.integer value)
        | .real value => pure (.real value)
      else
        refuse .malformed

/-- Any value as a tree, nested at most as deep as `depth` says. -/
def tree : Nat → Reader Json
  | 0 => treeOver none
  | depth + 1 => treeOver (some (tree depth))

/-- Read a whole text: nothing but white space may follow the value. -/
def whole {α : Type} (reader : Reader α) (bytes : Bytes) : Except Fault α := do
  let (value, rest) ← reader bytes
  if (rest.dropWhile isSpace).isEmpty then .ok value else .error .malformed

/-- How deep values may be nested in a text. -/
def nestingLimit : Nat := 127

end Reader

/-- The value a text spells. -/
def parse (bytes : Bytes) : Except Fault Json :=
  Reader.whole (Reader.tree Reader.nestingLimit) bytes

end CardInventory.Json
