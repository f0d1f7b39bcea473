import CardInventory.Api.Router

/-!
# The documentation page

A page that lists the endpoints of the service, each with what it is for and the
responses it may give.
-/

namespace CardInventory.Api.Page

/-- What is written for a character of a text in a page. -/
def escape : Char → List Char
  | '&' => "&amp;".toList
  | '<' => "&lt;".toList
  | '>' => "&gt;".toList
  | '"' => "&quot;".toList
  | c => [c]

/-- A text as it is written in a page. -/
def escaped (text : String) : String :=
  String.ofList (text.toList.flatMap escape)

/-- Content between the tags of an element. -/
def element (name content : String) : String :=
  "<" ++ name ++ ">" ++ content ++ "</" ++ name ++ ">"

/-- A response of an endpoint. -/
def response (status : Nat) (description : String) : String :=
  element "li" (toString status ++ " " ++ escaped description)

/-- An endpoint. -/
def entry (endpoint : Endpoint) : String :=
  element "h2" (escaped (endpoint.method ++ " " ++ endpoint.template)) ++
    element "p" (escaped endpoint.summary) ++
    (endpoint.description.elim "" fun text => element "p" (escaped text)) ++
    element "ul" (String.join (endpoint.responses.map fun (status, description) =>
      response status description))

/-- The page. -/
def text : String :=
  "<!doctype html>" ++
    element "html"
      (element "head" (element "title" "Card inventory") ++
        element "body" (element "h1" "Card inventory" ++
          String.join (endpoints.map entry)))

end CardInventory.Api.Page
