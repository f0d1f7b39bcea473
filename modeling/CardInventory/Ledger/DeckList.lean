import CardInventory.Zone

/-!
# Deck lists

The plain text of a deck: a line for each entry with its number of copies and
the name of the card, ordered by name, the main zone first. The sideboard
follows under a header, after an empty line where there is a main zone; a zone
without entries leaves no trace.
-/

namespace CardInventory.Ledger

/-- An entry as a deck list shows it. -/
structure ListLine where
  zone : Zone
  quantity : Int
  name : String
  deriving DecidableEq

namespace ListLine

/-- The text of a line. -/
def text (line : ListLine) : String :=
  s!"{line.quantity} {line.name}"

/-- The lines of a zone in the order of names; lines of one name keep their order. -/
def ofZone (zone : Zone) (lines : List ListLine) : List ListLine :=
  (lines.mergeSort fun left right => !decide (right.name < left.name)).filter
    fun line => line.zone = zone

end ListLine

/-- The line above the cards of the sideboard. -/
def sideboardHeader : String :=
  "Sideboard"

/-- The text of a deck list. -/
def renderDeckList (lines : List ListLine) : String :=
  let main := "\n".intercalate ((ListLine.ofZone .main lines).map ListLine.text)
  let sideboard := (ListLine.ofZone .sideboard lines).map ListLine.text
  if sideboard.isEmpty then
    main
  else
    (if main.isEmpty then "" else main ++ "\n\n") ++
      sideboardHeader ++ "\n" ++ "\n".intercalate sideboard

end CardInventory.Ledger
