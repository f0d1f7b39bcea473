import CardInventory.Logging.Directive

/-!
# Log filters

A filter is a list of directives. A record is judged by the most specific
directive that is about it, and of equally specific ones by the last. Records
that no directive is about are dropped.
-/

namespace CardInventory.Logging

open CardInventory.Text

/-- A log filter. -/
structure Filter where
  directives : List Directive
  deriving DecidableEq, Repr

namespace Filter

/-- The filter that lets through what is at least as grave as a level. -/
def above (level : Level) : Filter :=
  ⟨[{ Directive.unrestricted with threshold := some level }]⟩

/-- The filter of directives. Those that cannot be decided for a record on its own let
none through; where there are no directives at all, errors are let through. -/
def ofDirectives : List Directive → Filter
  | [] => above .error
  | directives => ⟨directives.filter Directive.isStatic⟩

/-- The filter that a text spells, as directives between commas. -/
def parse? (text : String) : Option Filter :=
  (((splitAt ',' text.toList).filter fun part => !part.isEmpty).mapM Directive.ofChars?).map
    ofDirectives

/-- The filter a variable asks for. Without one, and where it cannot be read, records
down to the level of information are let through. -/
def ofVariable (value : Option String) : Filter :=
  (value.bind parse?).getD (above .info)

/-- The directive by which a record is judged. -/
def judge? (filter : Filter) (record : Record) : Option Directive :=
  (filter.directives.filter fun directive => directive.concerns record).foldl
    (fun best directive =>
      match best with
      | none => some directive
      | some other => if directive.isAtLeastAsSpecific other then some directive else some other)
    none

/-- Whether a filter lets a record through. -/
def allows (filter : Filter) (record : Record) : Bool :=
  match filter.judge? record with
  | some directive => Threshold.allows directive.threshold record.level
  | none => false

end Filter

end CardInventory.Logging
