/-!
# Widths

The ranges of the whole numbers that take so many bits, with a sign or without.
A quantity takes 32 bits, a count 64, and an identifier 128.
-/

namespace CardInventory.Width

/-- How many values there are of so many bits. -/
def values (bits : Nat) : Nat :=
  Nat.pow 2 bits

/-- The least signed number of so many bits. -/
def least (bits : Nat) : Int :=
  -(values (bits - 1) : Int)

/-- The greatest signed number of so many bits. -/
def greatest (bits : Nat) : Int :=
  (values (bits - 1) : Int) - 1

/-- The greatest unsigned number of so many bits. -/
def greatestUnsigned (bits : Nat) : Int :=
  (values bits : Int) - 1

/-- Whether a whole number is a signed number of so many bits. -/
def fits (bits : Nat) (value : Int) : Bool :=
  least bits ≤ value && value ≤ greatest bits

theorem values_128 : values 128 = 340282366920938463463374607431768211456 := by
  decide

end CardInventory.Width
