import CardInventory.Proofs.Memory.Paging
import CardInventory.Proofs.Memory.Readback

/-!
# Browsing over HTTP

A request for a listing asks for any part of it, and is answered by a page of between one
and so many items, with the numbers the page was read by. A client who goes on by these
numbers is shown the whole listing: of the catalog, or of what a binder holds. Each item
tells which printing it shows, and an item of a binder how many copies.
-/

namespace CardInventory

open Ledger Inventory

namespace Api

open Memory (Sheet)

end Api

namespace Memory

open Api (Pagination queryOf)

section Browsed

variable (look : Api.Request → Option (Sheet Json)) (asks : Api.Request → Prop)
  (listing : Filter → List Json)

variable {look asks listing}

end Browsed

section Depots

variable (moments : Nat → Moment) (defaultCapacity : Int) (cors : Api.Cors) (depot : Depot)

variable {moments defaultCapacity cors depot}

end Depots

end Memory

end CardInventory
