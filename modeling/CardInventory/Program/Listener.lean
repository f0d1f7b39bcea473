import CardInventory.Url.Host

/-!
# Where the service listens

The service listens at an address of the machine it runs on: one of 32 bits, of
128 bits, with or without brackets, or the machine itself under its own name.
-/

namespace CardInventory.Program

open CardInventory.Text

/-- An address the service can listen at. -/
inductive Listener where
  | narrow (address : Nat)
  | wide (groups : List Nat)
  deriving DecidableEq, Repr

namespace Listener

/-- The address under which a machine reaches itself. -/
def loopback : Listener :=
  narrow 0x7F000001

/-- The address of 128 bits that characters spell. -/
def wide? (cs : List Char) : Option Listener :=
  (Url.wideAddress? cs).map wide

/-- The address a host names. -/
def ofHost? (host : String) : Option Listener :=
  let cs := host.toList
  if cs.map Char.toLower = "localhost".toList then some loopback
  else
    match cs with
    | '[' :: rest => if rest.getLast? = some ']' then wide? rest.dropLast else none
    | _ =>
        if cs.contains ':' then wide? cs
        else (((splitAt '.' cs).mapM Url.addressPart?).bind Url.addressOfParts?).map narrow

end Listener

end CardInventory.Program
