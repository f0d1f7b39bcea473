import CardInventory.Api.Task

/-!
# Endpoints

An endpoint is a method and a path with places for identifiers, what the
documentation says about it, and how a request to it becomes a task.
-/

namespace CardInventory.Api

/-- A part of an endpoint's path. -/
inductive Segment where
  | fixed (name : String)
  | place (name : String)
  deriving DecidableEq, Repr

/-- A part of the path as the documentation writes it. -/
def Segment.text : Segment → String
  | fixed name => name
  | place name => "\x7b" ++ name ++ "\x7d"

/-- An endpoint. -/
structure Endpoint where
  method : String
  path : List Segment
  name : String
  tag : String
  summary : String
  description : Option String
  responses : List (Nat × String)
  handle : List String → Request → Except Rejection Task

/-- The path of an endpoint as the documentation writes it. -/
def Endpoint.template (endpoint : Endpoint) : String :=
  "/" ++ "/".intercalate (endpoint.path.map Segment.text)

/-- What every endpoint may answer. -/
def internalError : Nat × String :=
  (500, "Internal server error")

/-- Read one identifier from the path. -/
def withId (next : Uuid → Request → Except Rejection Task) :
    List String → Request → Except Rejection Task
  | [part], request => do next (← pathId part) request
  | _, _ => .error .path

/-- Read two identifiers from the path. -/
def withIds (next : Uuid → Uuid → Request → Except Rejection Task) :
    List String → Request → Except Rejection Task
  | [first, second], request => do next (← pathId first) (← pathId second) request
  | _, _ => .error .path

end CardInventory.Api
