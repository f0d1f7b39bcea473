import CardInventory.Decimal.Reading
import CardInventory.Settings.Value
import CardInventory.Text.Blank
import CardInventory.Text.Percent
import CardInventory.Width

/-!
# Settings in variables

The value of an environment variable may spell a number, a truth value, a quoted
text, a list in brackets or a table in braces. Whatever spells none of them to
its end is a text as it stands.
-/

namespace CardInventory.Settings.Literal

open CardInventory.Text CardInventory.Decimal

/-- White space around the parts of a literal. -/
def isSpace (c : Char) : Bool :=
  c = ' ' || c = '\t' || c = '\n' || c = '\r' || c.toNat = 0x0C

/-- A character that may stand in a plain value. -/
def isPlain (c : Char) : Bool :=
  !([',', '{', '}', '[', ']'].contains c)

/-- A character that may stand in a plain name of an entry. -/
def isNameChar (c : Char) : Bool :=
  c.isAlphanum || c = '_' || c = '-'

/-- Drop the white space at the front. -/
def skipSpace (cs : List Char) : List Char :=
  cs.dropWhile isSpace

/-- What follows a word that must stand at the front. -/
def after? (word : List Char) (cs : List Char) : Option (List Char) :=
  if word.isPrefixOf cs then some (cs.drop word.length) else none

/-- The characters up to the closing quote, which must be there, and what follows it. -/
def quotedPart : List Char → Option (List Char × List Char)
  | '"' :: rest => some ([], rest)
  | '\\' :: c :: rest => (quotedPart rest).map fun (part, tail) => ('\\' :: c :: part, tail)
  | c :: rest => (quotedPart rest).map fun (part, tail) => (c :: part, tail)
  | [] => none

/-- The character that a number of hexadecimal digits stands for. -/
def escapedCode? (digits : List Char) : Option Char := do
  let values ← digits.mapM fun c =>
    if c.toNat < 0x80 then (hexDigit? (UInt8.ofNat c.toNat)).map UInt8.toNat else none
  let code := values.foldl (fun value digit => value * 16 + digit) 0
  if code < 0xD800 ∨ (0xDFFF < code ∧ code < 0x110000) then some (Char.ofNat code) else none

/-- The text between two quotes, with its escapes resolved. Every step takes at least
one character, so the length of the part bounds their number. -/
def unescape : Nat → List Char → Option (List Char)
  | _, [] => some []
  | 0, _ => none
  | fuel + 1, '\\' :: c :: rest =>
      let short := fun (c : Char) => (unescape fuel rest).map (c :: ·)
      let long := fun (width : Nat) =>
        if rest.length < width then none
        else do
          let c ← escapedCode? (rest.take width)
          (unescape fuel (rest.drop width)).map (c :: ·)
      match c with
      | '"' => short '"'
      | '\\' => short '\\'
      | 'b' => short (Char.ofNat 0x08)
      | 'f' => short (Char.ofNat 0x0C)
      | 'n' => short '\n'
      | 'r' => short '\r'
      | 't' => short '\t'
      | 'u' => long 4
      | 'U' => long 8
      | _ => none
  | fuel + 1, c :: rest =>
      if c = '\\' ∨ (c.toNat < 0x20 ∧ c ≠ '\t') ∨ c.toNat = 0x7F then none
      else (unescape fuel rest).map (c :: ·)

/-- A quoted text, after its opening quote. -/
def quoted (cs : List Char) : Option (String × List Char) := do
  let (part, rest) ← quotedPart cs
  let text ← unescape part.length part
  return (String.ofList text, rest)

/-- A plain value: a number, or else a text. -/
def plain (cs : List Char) : Setting :=
  let trimmed := trimChars cs
  let fraction := if trimmed.contains '.' then float? trimmed else none
  match fraction, integer? (Width.least 64) (Width.greatestUnsigned 64) trimmed with
  | some value, _ => .real value
  | none, some value => .integer value
  | none, none => .text (String.ofList trimmed)

/-- The items up to a closing mark, with commas between them; one more comma may stand
in front of the mark. -/
def itemsUntil {α : Type} (item : List Char → Option (α × List Char)) (close : Char) :
    Nat → List Char → Option (List α × List Char)
  | 0, _ => none
  | fuel + 1, cs =>
      match cs with
      | [] => none
      | c :: rest =>
          if c = close then some ([], rest)
          else do
            let (value, tail) ← item cs
            match tail with
            | [] => none
            | mark :: tail =>
                if mark = ',' then do
                  let (values, tail) ← itemsUntil item close fuel tail
                  return (value :: values, tail)
                else if mark = close then some ([value], tail)
                else none

/-- The name of an entry. -/
def name (cs : List Char) : Option (String × List Char) :=
  match cs with
  | '"' :: rest => quoted rest
  | _ =>
      let taken := cs.takeWhile isNameChar
      if taken.isEmpty then none else some (String.ofList taken, cs.drop taken.length)

/-- An entry of a table: a name, an equals sign and a value. -/
def entry (value : List Char → Option (Setting × List Char)) (cs : List Char) :
    Option ((String × Setting) × List Char) := do
  let (name, rest) ← name (skipSpace cs)
  let rest ← after? ['='] (skipSpace rest)
  let (setting, rest) ← value (skipSpace rest)
  return ((name, setting), skipSpace rest)

/-- A value in front of white space; `depth` bounds how deep brackets are nested. -/
def value : Nat → List Char → Option (Setting × List Char)
  | 0, _ => none
  | depth + 1, cs =>
      let cs := skipSpace cs
      let read : Option (Setting × List Char) :=
        match after? "true".toList cs, after? "false".toList cs, cs with
        | some rest, _, _ => some (.flag true, rest)
        | none, some rest, _ => some (.flag false, rest)
        | none, none, '{' :: rest =>
            (itemsUntil (entry (value depth)) '}' cs.length rest).map fun (entries, rest) =>
              (.table (entries.foldl (fun kept entry => Setting.putEntry entry.1 entry.2 kept) []),
                rest)
        | none, none, '[' :: rest =>
            (itemsUntil (value depth) ']' cs.length rest).map fun (items, rest) =>
              (.list items, rest)
        | none, none, '"' :: rest =>
            (quoted rest).map fun (text, rest) => (.text text, rest)
        | none, none, '\'' :: c :: '\'' :: rest => some (.letter c, rest)
        | none, none, '\'' :: _ => none
        | none, none, _ => some (plain (cs.takeWhile isPlain), cs.dropWhile isPlain)
      read.map fun (setting, rest) => (setting, skipSpace rest)

/-- The setting that the value of a variable spells. -/
def parse (text : String) : Setting :=
  let cs := text.toList
  match value (cs.length + 1) cs with
  | some (setting, []) => setting
  | _ => .text text

end CardInventory.Settings.Literal
