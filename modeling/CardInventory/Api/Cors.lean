import CardInventory.Api.Http
import CardInventory.Url.Basic

/-!
# Cross-origin requests

A browser asks whether a page of another origin may use the service. With no
allowed origin the service says nothing about it. Otherwise every response names
the origin if it is allowed, and every OPTIONS request is answered here.
-/

namespace CardInventory.Api

/-- An origin that is allowed. -/
inductive Origin where
  | any
  | url (text : String)
  deriving DecidableEq, Repr

/-- The origin a text names: a star stands for any, and any other text must be a URL. -/
def Origin.parse? (text : String) : Option Origin :=
  if text = "*" then some .any else (Url.parse? text).map fun url => .url url.text

/-- Which origins are allowed, and how many seconds a browser may remember it. -/
structure Cors where
  allowed : List Origin
  maxAge : Option Nat
  deriving DecidableEq, Repr

namespace Cors

/-- A text without the slashes at its end. -/
def withoutSlashes (text : String) : String :=
  String.ofList (text.toList.reverse.dropWhile (· = '/')).reverse

/-- Whether an allowed origin covers the origin of a request. -/
def covers (origin : String) : Origin → Bool
  | .any => true
  | .url text => withoutSlashes text = origin

/-- The origin a response names. -/
def allowedOrigin? (cors : Cors) (origin : Option String) : Option String :=
  if cors.allowed.contains .any then some "*"
  else origin.filter fun origin => cors.allowed.any (covers origin)

/-- The header that names the origin. -/
def originHeader (cors : Cors) (request : Request) : List (String × String) :=
  (cors.allowedOrigin? (request.header? "origin")).toList.map fun origin =>
    ("access-control-allow-origin", origin)

/-- The response to an OPTIONS request. -/
def preflight (cors : Cors) (request : Request) : Response :=
  { Response.bare 200 with
    headers := cors.originHeader request ++
      [("access-control-allow-methods", "*"), ("access-control-allow-headers", "*")] ++
      cors.maxAge.toList.map fun seconds => ("access-control-max-age", toString seconds) }

/-- Whether a request is answered without looking at its path. -/
def intercepts (cors : Cors) (request : Request) : Bool :=
  !cors.allowed.isEmpty && request.method = "OPTIONS"

/-- Name the allowed origin in a response. -/
def decorate (cors : Cors) (request : Request) (response : Response) : Response :=
  if cors.allowed.isEmpty then response
  else { response with headers := cors.originHeader request ++ response.headers }

end Cors

end CardInventory.Api
