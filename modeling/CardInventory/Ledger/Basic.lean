import CardInventory.Ledger.Failure
import CardInventory.Procedure
import CardInventory.Storage.Request

/-!
# Ledger rules

A ledger rule is a procedure over storage requests. This module holds what all
rules share: asking a request, failing unless a condition holds, and the checks
of a quantity and of a capacity.
-/

namespace CardInventory

/-- A rule of the ledger. -/
abbrev Ledger (α : Type) : Type :=
  Procedure Storage.Request Storage.Request.Reply Ledger.Failure α

namespace Ledger

/-- Ask a storage request. -/
def ask (request : Storage.Request) : Ledger request.Reply :=
  Procedure.request request

/-- Refuse the operation. -/
def refuse {α : Type} (failure : Failure) : Ledger α :=
  .fail failure

/-- Refuse the operation unless a condition holds. -/
def ensure (condition : Bool) (failure : Failure) : Ledger Unit :=
  if condition then .done () else .fail failure

/-- The value that was looked for, which must have been found. -/
def found {α : Type} (value : Option α) (failure : Failure) : Ledger α :=
  match value with
  | some value => .done value
  | none => .fail failure

/-- Refuse a quantity that is not positive. -/
def ensurePositive (quantity : Int) : Ledger Unit :=
  ensure (0 < quantity) (.invalid (.quantityNotPositive quantity))

/-- Adding copies to a deck must keep its total within its limit. -/
def checkCapacity (limit : Option Int) (current attempted : Int) : Except Failure Unit :=
  match limit with
  | some limit =>
      if limit < current + attempted then .error (.overCapacity current limit attempted)
      else .ok ()
  | none => .ok ()

end Ledger

end CardInventory
