import SnippetReview.Server.Message
import SnippetReview.Text.Blank

/-!
Requests from pages of other origins. A browser lets a page read a response only if the response
allows the page's origin; before an unusual request it asks which methods and headers are allowed.
-/

set_option autoImplicit false

namespace SnippetReview.Origin

def methods : Text := "DELETE, GET, HEAD, OPTIONS, PATCH, POST, PUT"

def insert (text : Text) : List Text → List Text
  | [] => [text]
  | other :: rest => if Text.le text other then text :: other :: rest else other :: insert text rest

def sort (texts : List Text) : List Text :=
  texts.foldr insert []

/-- The origin that a response allows: the one of the request if it is among those allowed, in any
case; without one, the first of those allowed. -/
def allowed? (origins : List Text) (headers : Headers) : Option Text :=
  match headers.get? "Origin" with
  | some [] | none => (sort origins).head?
  | some origin => if origins.any (·.lower = origin.lower) then some origin else none

def requestedHeaders (headers : Headers) : Text :=
  match headers.get? "Access-Control-Request-Headers" with
  | none => []
  | some [] => []
  | some names => Text.join ", " (sort ((names.splitOn ',').map Text.trim))

def preflight (headers : Headers) : Headers :=
  let method := ((headers.get? "Access-Control-Request-Method").getD []).upper
  if !method.isEmpty && method.occursIn methods then
    let names := requestedHeaders headers
    (if names.isEmpty then [] else [(Text.ofString "Access-Control-Allow-Headers", names)]) ++
      [(Text.ofString "Access-Control-Allow-Methods", methods)]
  else []

/-- The headers that a response to a request carries for other origins. The response depends on the
origin as soon as more than one is allowed. -/
def headers (origins : List Text) (request : Request) : Headers :=
  match allowed? origins request.headers with
  | none => []
  | some origin =>
    (Text.ofString "Access-Control-Allow-Origin", origin) ::
      (if request.method.upper = Text.ofString "OPTIONS" then preflight request.headers else []) ++
      (if origins.length > 1 then [(Text.ofString "Vary", Text.ofString "Origin")] else [])

end SnippetReview.Origin
