import CardInventory.Json.Basic
import CardInventory.Text.Utf8

/-!
# Requests and responses

What the service sees of an HTTP request and what it answers. The content of a
response is kept in a structured form until it is sent.
-/

namespace CardInventory.Api

/-- A request. The path and the query string are as they were sent. -/
structure Request where
  method : String
  path : String
  query : Option String
  headers : List (String × String)
  body : Text.Bytes

/-- The value of a header; the names of headers have no letter case. -/
def Request.header? (request : Request) (name : String) : Option String :=
  (request.headers.find? fun header => header.1.toLower = name).map Prod.snd

/-- What a response carries. -/
inductive Content where
  | json (value : Json)
  | text (value : String)
  /-- The page with the documentation of the service. -/
  | page
  | none

/-- The media type of a content. -/
def Content.mediaType : Content → Option String
  | json _ => some "application/json"
  | text _ => some "text/plain; charset=utf-8"
  | page => some "text/html; charset=utf-8"
  | none => Option.none

/-- A response. One without a body still names the type of the body it would have. -/
structure Response where
  status : Nat
  content : Content
  hasBody : Bool
  headers : List (String × String)

namespace Response

/-- A response with a body. -/
def of (status : Nat) (content : Content) : Response :=
  ⟨status, content, true, []⟩

/-- A response with nothing but a status. -/
def bare (status : Nat) : Response :=
  of status .none

end Response

end CardInventory.Api
