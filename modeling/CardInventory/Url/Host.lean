import CardInventory.Decimal.Reading
import CardInventory.Text.LowerCase
import CardInventory.Text.Percent
import CardInventory.Url.Encoding

/-!
# Hosts of URLs

The host of a URL with a special scheme is a domain name, the four parts of an
address of 32 bits, or an address of 128 bits in brackets. A domain name is
written in lower case, and its labels outside ASCII in their ASCII-compatible
form. A host under another scheme is kept as it stands.
-/

namespace CardInventory.Url

open CardInventory.Text CardInventory.Decimal

/-! ## Labels outside ASCII -/

namespace Label

/-- The share of a step in the bias of the next one. -/
def adapt (delta points : Nat) (first : Bool) : Nat :=
  let delta := if first then delta / 700 else delta / 2
  let rec halve : Nat → Nat → Nat → Nat
    | 0, k, delta => k + 36 * delta / (delta + 38)
    | fuel + 1, k, delta =>
        if 455 < delta then halve fuel (k + 36) (delta / 35) else k + 36 * delta / (delta + 38)
  halve 32 0 (delta + delta / points)

/-- The character of a digit of base 36. -/
def digitChar (digit : Nat) : Char :=
  if digit < 26 then Char.ofNat ('a'.toNat + digit) else Char.ofNat ('0'.toNat + (digit - 26))

/-- The digits of a number in the variable base that a bias gives. -/
def variableDigits (bias : Nat) : Nat → Nat → Nat → List Char
  | 0, _, _ => []
  | fuel + 1, k, value =>
      let threshold := if k ≤ bias then 1 else if bias + 26 ≤ k then 26 else k - bias
      if value < threshold then [digitChar value]
      else
        digitChar (threshold + (value - threshold) % (36 - threshold)) ::
          variableDigits bias fuel (k + 36) ((value - threshold) / (36 - threshold))

/-- What the encoding of a label has come to: the least code point not handled yet, the
positions skipped, the bias, how many characters are handled, and the digits. -/
structure State where
  next : Nat
  delta : Nat
  bias : Nat
  handled : Nat
  digits : List Char

/-- Pass over a label and write each occurrence of the code point that is due. -/
def sweep (basic : Nat) (label : List Char) (state : State) : State :=
  let swept := label.foldl (fun state c =>
    if c.toNat < state.next then { state with delta := state.delta + 1 }
    else if c.toNat = state.next then
      { state with
        delta := 0
        bias := adapt state.delta (state.handled + 1) (state.handled = basic)
        handled := state.handled + 1
        digits := state.digits ++ variableDigits state.bias 64 36 state.delta }
    else state) state
  { swept with next := swept.next + 1, delta := swept.delta + 1 }

/-- The digits for the characters of a label outside ASCII, in at most `fuel` sweeps. -/
def extended (basic : Nat) (label : List Char) : Nat → State → List Char
  | 0, state => state.digits
  | fuel + 1, state =>
      match (label.map Char.toNat).filter (state.next ≤ ·) with
      | [] => state.digits
      | code :: codes =>
          let due := codes.foldl min code
          extended basic label fuel <| sweep basic label
            { state with
              next := due, delta := state.delta + (due - state.next) * (state.handled + 1) }

/-- A label in its ASCII-compatible form. -/
def toAscii (label : List Char) : List Char :=
  if label.all fun c => c.toNat < 0x80 then label
  else
    let basic := label.filter fun c => c.toNat < 0x80
    let separator := if basic.isEmpty then [] else ['-']
    "xn--".toList ++ basic ++ separator ++
      extended basic.length label label.length ⟨0x80, 0, 72, basic.length, []⟩

end Label

/-! ## Addresses -/

/-- A part of an address of 32 bits, in base 8, 10 or 16. -/
def addressPart? (part : List Char) : Option Nat :=
  let number := fun (base : Nat) (digits : List Char) =>
    (digits.mapM fun c => (hexDigit? (UInt8.ofNat c.toNat)).map UInt8.toNat).bind fun values =>
      if values.all (· < base) && digits.all (·.toNat < 0x80) then
        some (values.foldl (fun value digit => value * base + digit) 0)
      else none
  match part with
  | [] => none
  | '0' :: 'x' :: digits => number 16 digits
  | '0' :: 'X' :: digits => number 16 digits
  | '0' :: d :: digits => number 8 (d :: digits)
  | digits => number 10 digits

/-- The labels of a domain name; one empty label at the end does not count. -/
def labelsOf (name : List Char) : List (List Char) :=
  let labels := splitAt '.' name
  if labels.getLast? = some [] ∧ 1 < labels.length then labels.dropLast else labels

/-- Whether a domain name ends in a number, so that it must be an address. -/
def endsInNumber (name : List Char) : Bool :=
  match (labelsOf name).getLast? with
  | none => false
  | some [] => false
  | some label =>
      label.all Char.isDigit ||
        match label with
        | '0' :: x :: digits =>
            (x = 'x' || x = 'X') && (digits.isEmpty || (addressPart? label).isSome)
        | _ => false

/-- The address of 32 bits that parts spell: the last part fills what the others leave. -/
def addressOfParts? (parts : List Nat) : Option Nat :=
  match parts.reverse with
  | [] => none
  | last :: before =>
      let room := Nat.pow 256 (4 - before.length)
      if 3 < before.length ∨ before.any (255 < ·) ∨ room ≤ last then none
      else some (before.reverse.foldl (fun value part => value * 256 + part) 0 * room + last)

/-- The four parts of an address of 32 bits. -/
def addressChars (address : Nat) : List Char :=
  let part := fun unit => (toString (address / unit % 256)).toList
  part 0x1000000 ++ '.' :: part 0x10000 ++ '.' :: part 0x100 ++ '.' :: part 1

/-- A group of four hexadecimal digits at most. -/
def group? (part : List Char) : Option Nat :=
  if part.isEmpty || 4 < part.length || !part.all (fun c => c.toNat < 0x80) then none
  else
    (part.mapM fun c => (hexDigit? (UInt8.ofNat c.toNat)).map UInt8.toNat).map
      (·.foldl (fun value digit => value * 16 + digit) 0)

/-- The groups that a part of an address of 128 bits spells. Only at the end of the
address may four decimal parts stand for the last two groups. -/
def groups? (atEnd : Bool) (text : List Char) : Option (List Nat) :=
  if text.isEmpty then some []
  else
    let parts := splitAt ':' text
    match atEnd, parts.getLast? with
    | true, some last =>
        if last.contains '.' then do
          let before ← parts.dropLast.mapM group?
          let numbers ← (splitAt '.' last).mapM fun part =>
            (integer? 0 255 part).filter fun _ =>
              part.all Char.isDigit && (part.length = 1 || part.head? ≠ some '0')
          match numbers with
          | [a, b, c, d] => some (before ++ [(a * 256 + b).toNat, (c * 256 + d).toNat])
          | _ => none
        else parts.mapM group?
    | _, _ => parts.mapM group?

/-- Split a list before the first pair of colons, which is dropped. -/
def cutAtGap : List Char → Option (List Char × List Char)
  | ':' :: ':' :: rest => some ([], rest)
  | c :: rest => (cutAtGap rest).map fun (before, after) => (c :: before, after)
  | [] => none

/-- The eight groups of an address of 128 bits. -/
def wideAddress? (text : List Char) : Option (List Nat) :=
  match cutAtGap text with
  | none => do
      let groups ← groups? true text
      if groups.length = 8 then some groups else none
  | some (before, after) => do
      let front ← groups? false before
      let back ← groups? true after
      if front.length + back.length < 8 then
        some (front ++ List.replicate (8 - front.length - back.length) 0 ++ back)
      else none

/-- The start and length of the first longest run of zeros among groups. -/
def longestZeros (groups : List Nat) : Nat × Nat :=
  (List.range groups.length).foldl (fun best start =>
    let run := ((groups.drop start).takeWhile (· = 0)).length
    if best.2 < run then (start, run) else best) (0, 0)

/-- The text of an address of 128 bits; its longest run of zeros is left out. -/
def wideAddressChars (groups : List Nat) : List Char :=
  let hex := fun (part : List Nat) =>
    List.intercalate [':'] (part.map (Nat.toDigits 16))
  let (start, length) := longestZeros groups
  if length < 2 then hex groups
  else hex (groups.take start) ++ [':', ':'] ++ hex (groups.drop (start + length))

/-! ## Hosts -/

/-- The marks that no host holds. -/
def hostMarks : List Char :=
  ['#', '/', ':', '<', '>', '?', '@', '[', '\\', ']', '^', '|']

/-- The characters that no domain name holds. -/
def isForbidden (c : Char) : Bool :=
  c.toNat ≤ 0x20 || c.toNat = 0x7F || c = '%' || hostMarks.contains c

/-- The characters that no host holds. -/
def isForbiddenInHost (c : Char) : Bool :=
  [0x00, 0x09, 0x0A, 0x0D, 0x20].contains c.toNat || hostMarks.contains c

/-- An address of 128 bits in brackets. -/
def bracketed? (cs : List Char) : Option (List Char) :=
  if cs.getLast? = some ']' then
    (wideAddress? cs.dropLast).map fun groups => '[' :: wideAddressChars groups ++ [']']
  else none

/-- The host of a URL with a special scheme. -/
def specialHost? (cs : List Char) : Option (List Char) :=
  match cs with
  | '[' :: rest => bracketed? rest
  | _ =>
      let decoded := decodeLenient (percentDecode (bytesOf (String.ofList cs)))
      let labels := (splitAt '.' decoded.toList).map fun label => Label.toAscii (lowerChars label)
      let name := List.intercalate ['.'] labels
      if name.isEmpty || name.any isForbidden then none
      else if endsInNumber name then
        (((labelsOf name).mapM addressPart?).bind addressOfParts?).map addressChars
      else some name

/-- The host of a URL with any other scheme. -/
def plainHost? (cs : List Char) : Option (List Char) :=
  match cs with
  | '[' :: rest => bracketed? rest
  | _ => if cs.any isForbiddenInHost then none else some (encode controls cs)

end CardInventory.Url
