import CardInventory.Instant.Parser
import CardInventory.Json.Reader
import CardInventory.Uuid
import CardInventory.Width

/-!
# Formats of JSON values

A format says how the values of a type are written in JSON: as text, where they
are read from the front of a byte text, and as trees. Records are given by their
fields. A record is an object, or the array of its fields in their order; in the
object a field may be left out when its absence has a meaning, names nobody
knows are skimmed, and a name may not be repeated. A flattened record is always
an object, which holds the fields of an inner record beside its own.
-/

namespace CardInventory.Json

open CardInventory.Text

/-- How the values of a type are written in JSON. -/
structure Format (α : Type) where
  read : Reader α
  ofTree : Json → Option α
  toTree : α → Json

namespace Format

open Reader

/-- The value a whole text spells. -/
def decode {α : Type} (format : Format α) (bytes : Bytes) : Except Fault α :=
  whole format.read bytes

/-- What a value must satisfy to fit a format. -/
def fit {α : Type} : Option α → Reader α
  | some value => pure value
  | none => refuse .unfit

/-- Strings. -/
def text : Format String where
  read := do
    match ← token with
    | none => refuse .truncated
    | some '"' => advance; stringTail
    | some _ => misfit
  ofTree := Json.text?
  toTree := .text

/-- Strings that spell a value of another type. -/
def spelling {α : Type} (parse : String → Option α) (print : α → String) : Format α where
  read := do fit (parse (← text.read))
  ofTree value := value.text?.bind parse
  toTree value := .text (print value)

/-- Identifiers. -/
def uuid : Format Uuid :=
  spelling Uuid.parse? Uuid.text

/-- Instants. -/
def instant : Format Instant :=
  spelling Instant.parse? Instant.text

/-- True and false. -/
def flag : Format Bool where
  read := do
    match ← token with
    | none => refuse .truncated
    | some 't' => advance; spell ['r', 'u', 'e']; pure true
    | some 'f' => advance; spell ['a', 'l', 's', 'e']; pure false
    | some _ => misfit
  ofTree
    | .flag value => some value
    | _ => none
  toTree := .flag

/-- A number of any kind. -/
def readNumber : Reader Number := do
  match ← token with
  | none => refuse .truncated
  | some c => if opensNumber c then number else misfit

/-- Whole numbers of a range. -/
def integer (low high : Int) : Format Int where
  read := do
    match ← readNumber with
    | .integer value => if low ≤ value ∧ value ≤ high then pure value else refuse .unfit
    | .real _ => refuse .unfit
  ofTree value := value.integer?.filter fun value => low ≤ value ∧ value ≤ high
  toTree := .integer

/-- The real number of a whole one. -/
def realOfInteger (value : Int) : Float :=
  if 0 ≤ value then (UInt64.ofNat value.toNat).toFloat
  else -(UInt64.ofNat value.natAbs).toFloat

/-- Numbers. -/
def real : Format Float where
  read := do
    match ← readNumber with
    | .integer value => pure (realOfInteger value)
    | .real value => pure value
  ofTree
    | .integer value => some (realOfInteger value)
    | .real value => some value
    | _ => none
  toTree := .real

/-- Values that may be null. -/
def nullable {α : Type} (format : Format α) : Format (Option α) where
  read := do
    match ← token with
    | some 'n' => advance; spell ['u', 'l', 'l']; pure none
    | _ => some <$> format.read
  ofTree
    | .null => some none
    | value => (format.ofTree value).map some
  toTree value := value.elim .null format.toTree

/-- Arrays of values. -/
def list {α : Type} (format : Format α) : Format (List α) where
  read := do
    match ← token with
    | none => refuse .truncated
    | some '[' => do
        advance
        itemsOf format.read (← allowance) true
    | some _ => misfit
  ofTree
    | .array items => items.mapM format.ofTree
    | _ => none
  toTree values := .array (values.map format.toTree)

/-- One of several names, each a string or an object with null under the name. -/
def choice {α : Type} (named? : String → Option α) (name : α → String) : Format α where
  read := do
    match ← token with
    | none => refuse .truncated
    | some '"' => do fit (named? (← text.read))
    | some '{' => do
        advance
        match ← token with
        | none => refuse .truncated
        | some '}' => refuse .malformed
        | some _ => pure ()
        let value ← fit (named? (← text.read))
        colon
        match ← token with
        | none => refuse .truncated
        | some 'n' => advance; spell ['u', 'l', 'l']
        | some _ => misfit
        match ← token with
        | none => refuse .truncated
        | some '}' => advance; pure value
        | some _ => refuse .malformed
    | some _ => refuse .malformed
  ofTree value := value.text?.bind named?
  toTree value := .text (name value)

end Format

/-- What it means that a record leaves a field out. -/
inductive Absence (α : Type) where
  /-- The record is refused. -/
  | refused
  /-- An object may leave the field out, an array may not. -/
  | inObject (value : α)
  /-- An object may leave the field out, and an array may end before it. -/
  | anywhere (value : α)

/-- A field of a record. -/
structure Field (α : Type) where
  name : String
  format : Format α
  absence : Absence α
  /-- Values that are written by leaving the field out. -/
  unwritten : α → Bool

namespace Field

/-- A field that must be there. -/
def required {α : Type} (name : String) (format : Format α) : Field α :=
  ⟨name, format, .refused, fun _ => false⟩

/-- A field that may be null or left out. -/
def optional {α : Type} (name : String) (format : Format α) : Field (Option α) :=
  ⟨name, format.nullable, .inObject none, fun _ => false⟩

/-- A field with a value for the case that it is left out. -/
def withDefault {α : Type} (name : String) (format : Format α) (value : α) : Field α :=
  ⟨name, format, .anywhere value, fun _ => false⟩

/-- A field that tells null from being left out. -/
def patch {α : Type} (name : String) (format : Format α) : Field (Option (Option α)) where
  name := name
  format :=
    { read := some <$> format.nullable.read
      ofTree := fun value => (format.nullable.ofTree value).map some
      toTree := fun value => format.nullable.toTree (value.getD none) }
  absence := .anywhere none
  unwritten := Option.isNone

end Field

/-- The fields of a record in their order. -/
inductive Fields : List Type → Type 1 where
  | nil : Fields []
  | cons {α : Type} {types : List Type} (field : Field α) (rest : Fields types) :
      Fields (α :: types)

/-- A value for each field. -/
@[reducible]
def Row : List Type → Type
  | [] => Unit
  | α :: types => α × Row types

/-- A value for each field that has been read. -/
@[reducible]
def Slots : List Type → Type
  | [] => Unit
  | α :: types => Option α × Slots types

namespace Fields

open Reader

/-- No field has been read. -/
def empty : {types : List Type} → Fields types → Slots types
  | _, .nil => ()
  | _, .cons _ rest => (none, rest.empty)

/-- How to read the member under a name, unless no field has this name. -/
def member? :
    {types : List Type} → Fields types → Slots types → String → Option (Reader (Slots types))
  | _, .nil, _, _ => none
  | _, .cons field rest, (slot, slots), name =>
      if name = field.name then
        some <|
          match slot with
          | some _ => refuse .unfit
          | none => do
              colon
              return (some (← field.format.read), slots)
      else
        (rest.member? slots name).map fun reader => do return (slot, ← reader)

/-- The values of all fields, with a meaning for those that were left out. -/
def complete : {types : List Type} → Fields types → Slots types → Option (Row types)
  | _, .nil, _ => some ()
  | _, .cons field rest, (slot, slots) =>
      match slot, field.absence, rest.complete slots with
      | some value, _, some row => some (value, row)
      | none, .inObject value, some row => some (value, row)
      | none, .anywhere value, some row => some (value, row)
      | _, _, _ => none

/-- The members of an object after its opening brace. -/
def readObject {types : List Type} (fields : Fields types) : Reader (Row types) := do
  let member := fun slots name =>
    match fields.member? slots name with
    | some reader => reader
    | none => do
        colon
        skim
        pure slots
  let slots ← foldMembers member (← allowance) true fields.empty
  Format.fit (fields.complete slots)

/-- The items of an array after its opening bracket, one for each field. -/
def readArray : {types : List Type} → Fields types → Bool → Reader (Row types)
  | _, .nil, _ => closeArray
  | _, .cons field rest, first => do
      if ← anotherItem first then
        let value ← field.format.read
        return (value, ← rest.readArray false)
      else
        match field.absence with
        | .anywhere value => return (value, ← rest.readArray first)
        | _ => refuse .unfit

/-- The values of all fields among the members of an object. -/
def ofMembers : {types : List Type} → Fields types → List (String × Json) → Option (Row types)
  | _, .nil, _ => some ()
  | _, .cons field rest, members =>
      match members.filter (fun member => member.1 = field.name), field.absence with
      | [(_, value)], _ => do return (← field.format.ofTree value, ← rest.ofMembers members)
      | [], .inObject value => do return (value, ← rest.ofMembers members)
      | [], .anywhere value => do return (value, ← rest.ofMembers members)
      | _, _ => none

/-- The members of the object with the given values. -/
def toMembers : {types : List Type} → Fields types → Row types → List (String × Json)
  | _, .nil, _ => []
  | _, .cons field rest, (value, row) =>
      if field.unwritten value then rest.toMembers row
      else (field.name, field.format.toTree value) :: rest.toMembers row

/-- The values of all fields among the items of an array. -/
def ofItems : {types : List Type} → Fields types → List Json → Option (Row types)
  | _, .nil, [] => some ()
  | _, .nil, _ :: _ => none
  | _, .cons field rest, item :: items => do
      return (← field.format.ofTree item, ← rest.ofItems items)
  | _, .cons field rest, [] =>
      match field.absence with
      | .anywhere value => do return (value, ← rest.ofItems [])
      | _ => none

end Fields

namespace Format

open Reader

/-- Records with the given fields; `build` and `parts` go between a record and the
values of its fields. -/
def record {α : Type} {types : List Type} (fields : Fields types) (build : Row types → α)
    (parts : α → Row types) : Format α where
  read := do
    match ← token with
    | none => refuse .truncated
    | some '{' => advance; build <$> fields.readObject
    | some '[' => advance; build <$> fields.readArray true
    | some _ => misfit
  ofTree
    | .object members => (fields.ofMembers members).map build
    | .array items => (fields.ofItems items).map build
    | _ => none
  toTree value := .object (fields.toMembers (parts value))

/-- How deep the values of buffered members may be nested inside their object. -/
def bufferDepth : Nat := 126

/-- Records that hold the fields of an inner record beside their own. Members that
are not their own are kept as trees until the object ends. -/
def flattened {α : Type} {inner outer : List Type} (within : Fields inner) (own : Fields outer)
    (build : Row inner → Row outer → α) (parts : α → Row inner × Row outer) : Format α where
  read := do
    match ← token with
    | none => refuse .truncated
    | some '{' => do
        advance
        let member := fun (state : Slots outer × List (String × Json)) name =>
          match own.member? state.1 name with
          | some reader => do return (← reader, state.2)
          | none => do
              colon
              return (state.1, (name, ← tree bufferDepth) :: state.2)
        let (slots, others) ← foldMembers member (← allowance) true (own.empty, [])
        let row ← fit (own.complete slots)
        return build (← fit (within.ofMembers others.reverse)) row
    | some _ => misfit
  ofTree
    | .object members => do return build (← within.ofMembers members) (← own.ofMembers members)
    | _ => none
  toTree value :=
    let (first, second) := parts value
    .object (within.toMembers first ++ own.toMembers second)

/-- The range of 32-bit numbers. -/
def int32 : Format Int :=
  integer (Width.least 32) (Width.greatest 32)

/-- The range of 64-bit numbers. -/
def int64 : Format Int :=
  integer (Width.least 64) (Width.greatest 64)

end Format

end CardInventory.Json
