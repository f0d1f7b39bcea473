/-!
# Zones of a deck

A deck keeps its copies in two zones. When a removal names no zone, the main
zone is looked at before the sideboard.
-/

namespace CardInventory

/-- A zone of a deck. -/
inductive Zone where
  | main
  | sideboard
  deriving DecidableEq, Repr, Inhabited

namespace Zone

/-- The zones in the order in which a removal looks at them. -/
def removalOrder : List Zone :=
  [main, sideboard]

/-- The position of a zone in the order of removals. -/
def rank : Zone → Nat
  | main => 0
  | sideboard => 1

theorem rank_injective {left right : Zone} (ranks : left.rank = right.rank) : left = right := by
  cases left <;> cases right <;> simp_all [rank]

/-- The name of a zone. -/
def name : Zone → String
  | main => "main"
  | sideboard => "sideboard"

/-- The zone with the given name. -/
def named? (text : String) : Option Zone :=
  if text = "main" then some main
  else if text = "sideboard" then some sideboard
  else none

@[simp]
theorem named?_name (zone : Zone) : named? zone.name = some zone := by
  cases zone <;> rfl

instance : ToString Zone :=
  ⟨name⟩

end Zone

end CardInventory
