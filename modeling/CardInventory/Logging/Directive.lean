import CardInventory.Decimal.Reading
import CardInventory.Logging.Record
import CardInventory.Text.Percent
import CardInventory.Text.Blank

/-!
# Directives of a log filter

A directive says down to which level records are let through, and may restrict
this to a target, to a span of work, and to records with a certain field:
`target[span{field=value}]=level`. A lone word is a level if it names one, and a
target otherwise. Where no level is given, every record is let through.
-/

namespace CardInventory.Logging

open CardInventory.Text CardInventory.Decimal

/-- The last level that is let through, if any is. -/
abbrev Threshold := Option Level

namespace Threshold

/-- Whether a level is let through. -/
def allows (threshold : Threshold) (level : Level) : Bool :=
  match threshold with
  | none => false
  | some last => level.rank ≤ last.rank

/-- The threshold a number stands for; zero lets nothing through. -/
def ofRank? (rank : Nat) : Option Threshold :=
  if rank = 0 then some none else (Level.all.find? fun level => level.rank = rank).map some

/-- The threshold a name stands for, in any letter case. -/
def ofName? (name : String) : Option Threshold :=
  if name = "OFF" then some none else (Level.all.find? fun level => level.name = name).map some

/-- The threshold that characters spell: a number or a name. -/
def ofChars? (cs : List Char) : Option Threshold :=
  match integer? 0 5 cs with
  | some rank =>
      if cs.head? = some '-' then none else ofRank? rank.toNat
  | none => ofName? (String.ofList (cs.map Char.toUpper))

end Threshold

/-- A field that a directive asks for, perhaps with a certain value. -/
structure FieldPattern where
  name : String
  value : Option String
  deriving DecidableEq, Repr

/-- A directive of a log filter. -/
structure Directive where
  target : Option String
  span : Option String
  field : Option FieldPattern
  threshold : Threshold
  deriving DecidableEq, Repr

namespace Directive

/-- Blocks of letters and digits outside ASCII, first and last code point. -/
def wordBlocks : List (Nat × Nat) :=
  [(0xAA, 0xAA), (0xB2, 0xB3), (0xB5, 0xB5), (0xB9, 0xBA), (0xBC, 0xBE), (0xC0, 0xD6),
    (0xD8, 0xF6), (0xF8, 0x2C1), (0x370, 0x373), (0x376, 0x377), (0x37A, 0x37D), (0x37F, 0x37F),
    (0x386, 0x386), (0x388, 0x3F5), (0x3F7, 0x481), (0x48A, 0x559), (0x560, 0x588),
    (0x5D0, 0x5EA), (0x620, 0x669), (0x66E, 0x6D3), (0x904, 0x1FFC), (0x2070, 0x2079),
    (0x2080, 0x2089), (0x2C00, 0x2DFF), (0x3041, 0x3096), (0x30A1, 0x30FA), (0x3105, 0x9FFF),
    (0xA000, 0xD7FF), (0xF900, 0xFDFB), (0xFF10, 0xFF19), (0xFF21, 0xFF3A), (0xFF41, 0xFF5A),
    (0xFF66, 0xFFDC), (0x10000, 0x1EFFF), (0x20000, 0x3FFFF)]

/-- Whether a character may begin a target or a level. -/
def isWordStart (c : Char) : Bool :=
  c.isAlphanum || ['-', ':', '_'].contains c || inRanges wordBlocks c.toNat

/-- The characters between two positions. -/
def slice (cs : List Char) (start stop : Nat) : List Char :=
  (cs.take stop).drop start

/-- The threshold in a directive; an empty one lets everything through. -/
def threshold? (cs : List Char) : Option Threshold :=
  if cs.isEmpty then some (some .trace) else Threshold.ofChars? cs

/-- A field and the value it is asked to have. -/
def fieldPattern (cs : List Char) : FieldPattern :=
  match splitAt '=' cs with
  | name :: value :: _ => ⟨String.ofList name, some (String.ofList value)⟩
  | _ => ⟨String.ofList cs, none⟩

/-- How many characters there are before any of some marks, and what follows. -/
def untilMark (marks : List Char) (cs : List Char) : Nat × List Char :=
  let front := cs.takeWhile fun c => !marks.contains c
  (front.length, cs.drop front.length)

/-- The end of a directive, behind the closing bracket at `position`. -/
def closing? (whole : List Char) (position : Nat) (directive : Directive) :
    List Char → Option Directive
  | [] => some directive
  | '=' :: _ =>
      (threshold? (whole.drop (position + 1))).map fun threshold =>
        { directive with threshold := threshold }
  | _ => none

/-- The field of a directive, which begins at `start`. -/
def field? (whole : List Char) (start : Nat) (directive : Directive) (cs : List Char) :
    Option Directive :=
  match untilMark ['}'] cs with
  | (length, '}' :: ']' :: rest) =>
      let text := slice whole start (start + length)
      if text.isEmpty then none
      else
        closing? whole (start + length + 2) { directive with field := some (fieldPattern text) } rest
  | _ => none

/-- The span of a directive, which begins at `start`. -/
def span? (whole : List Char) (start : Nat) (directive : Directive) (cs : List Char) :
    Option Directive :=
  let (length, rest) := untilMark [']', '{'] cs
  let text := slice whole start (start + length)
  match rest with
  | ']' :: rest =>
      closing? whole (start + length + 1)
        { directive with span := some (String.ofList text) } rest
  | '{' :: rest =>
      let span := if text.isEmpty then none else some (String.ofList text)
      field? whole (start + length + 1) { directive with span := span } rest
  | _ => none

/-- A directive that restricts nothing. -/
def unrestricted : Directive :=
  ⟨none, none, none, some .trace⟩

/-- The directive that is a lone word. -/
def word (cs : List Char) : Directive :=
  match Threshold.ofChars? cs with
  | some threshold => { unrestricted with threshold := threshold }
  | none => { unrestricted with target := some (String.ofList cs) }

/-- The directive that characters spell. Its marks are looked for between its blank
ends, but its parts are cut from the whole at the same positions, so that each blank
in front moves every part by one. -/
def ofChars? (whole : List Char) : Option Directive :=
  let cs := trimChars whole
  match cs with
  | [] => none
  | '[' :: rest => span? whole 1 unrestricted rest
  | c :: _ =>
      if isWordStart c then
        let (length, rest) := untilMark ['=', '['] cs
        let targeted := { unrestricted with target := some (String.ofList (whole.take length)) }
        match rest with
        | '[' :: rest => span? whole (length + 1) targeted rest
        | '=' :: _ => closing? whole length targeted rest
        | _ => some (word whole)
      else none

/-- Whether a directive can be decided for a record on its own, whatever the work in
which the record arises. -/
def isStatic (directive : Directive) : Bool :=
  directive.span.isNone && (directive.field.bind FieldPattern.value).isNone

/-- How a directive compares with another that is about the same records: a longer
target is more specific, then one with a field, then the field later in order. -/
def isAtLeastAsSpecific (directive other : Directive) : Bool :=
  let weight := fun (directive : Directive) =>
    directive.target.elim 0 (fun target => target.utf8ByteSize + 1)
  let field := fun (directive : Directive) => directive.field.elim "" FieldPattern.name
  weight other < weight directive ||
    (weight other = weight directive && !decide (field directive < field other))

/-- Whether a directive is about a record. -/
def concerns (directive : Directive) (record : Record) : Bool :=
  (directive.target.all fun target => target.toList.isPrefixOf record.target.toList) &&
    directive.field.all fun field => record.fieldNames.contains field.name

end Directive

end CardInventory.Logging
