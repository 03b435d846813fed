import SnippetReview.Server.Handler
import SnippetReview.Server.Origin
import SnippetReview.Server.Route

/-!
The service as a function from requests to responses.
-/

set_option autoImplicit false

namespace SnippetReview.Server

structure Limits where
  /-- The nesting of what is submitted. -/
  nesting : Nat
  /-- The calls of itself that the search for a problem may take. -/
  calls : Nat

structure Context where
  settings : Settings
  /-- The time in seconds. -/
  now : Int
  /-- The parser of scripts. -/
  parse : Text → SyntaxTree
  limits : Limits

def escapePage (c : CodePoint) : Text :=
  if c = '&' then "&amp;"
  else if c = '<' then "&lt;"
  else if c = '>' then "&gt;"
  else if c = '"' then "&#34;"
  else if c = '\'' then "&#39;"
  else [c]

def redirect (address : Text) : Response :=
  let shown := address.flatMap escapePage
  .of 308 (.page (Text.ofString "<!doctype html>\n<html lang=en>\n" ++
    "<title>Redirecting...</title>\n<h1>Redirecting...</h1>\n" ++
    "<p>You should be redirected automatically to the target URL: <a href=\"" ++ shown ++ "\">" ++
    shown ++ "</a>. If not, click the link.\n")) []

def options (route : Route) : Response :=
  { Response.of 200 (.page []) [] with
    headers := [(Text.ofString "Allow", Text.join ", " route.methods)] }

def review (context : Context) (request : Request) : Response :=
  Handler.onSubmission context.limits.nesting request
    (Handler.analyze context.settings context.limits.calls context.parse)

def exchange (context : Context) (request : Request) : Response :=
  Handler.onSubmission context.limits.nesting request
    (Handler.login context.settings context.now)

def serve (context : Context) (request : Request) (route : Route) : Response :=
  if request.method.upper = Text.ofString "OPTIONS" then options route
  else
    match route with
    | .health => Handler.health
    | .analyze => review context request
    | .login => exchange context request
    | .asset => .refusal 404 "Not found" []

/-- The response to a request, other origins aside. -/
def respond (context : Context) (request : Request) : Response :=
  let target := Target.split request.target
  match Route.lookup target.decodedPath request.method.upper with
  | .found route => serve context request route
  | .moved path => redirect (target.address path)
  | .wrongMethod => .refusal 405 "Method not allowed" []
  | .unknown => .refusal 404 "Not found" []

/-- The response to a request. One that asks for headers only gets no body. -/
def handle (context : Context) (request : Request) : Response :=
  let response := respond context request
  let response := { response with
    headers := response.headers ++ Origin.headers context.settings.origins request }
  if request.method = Text.ofString "HEAD" then response.withoutBody else response

end SnippetReview.Server
