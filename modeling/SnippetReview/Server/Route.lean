import SnippetReview.Server.Message
import SnippetReview.Server.Target

/-!
Routes: which paths the service knows, and which methods they take.
-/

set_option autoImplicit false

namespace SnippetReview

inductive Route where
  | health
  | analyze
  | login
  /-- Files beside the service; it has none. -/
  | asset
deriving DecidableEq

namespace Route

def ofPath? (path : Text) : Option Route :=
  if path = Text.ofString "/api/health" then some health
  else if path = Text.ofString "/api/analyze" then some analyze
  else if path = Text.ofString "/api/login" then some login
  else
    let folder : Text := "/static/"
    let file := path.drop folder.length
    if folder.isPrefixOf path && !file.isEmpty && file.head? ≠ some (CodePoint.ofChar '/') then
      some asset
    else none

def methods : Route → List Text
  | health | asset => ["GET", "HEAD", "OPTIONS"]
  | analyze | login => ["OPTIONS", "POST"]

def takes (route : Route) (method : Text) : Bool :=
  route.methods.contains method

inductive Lookup where
  /-- To a route, by a method that it takes. -/
  | found (route : Route)
  /-- To a route under another path, in which slashes are merged. -/
  | moved (path : Text)
  /-- To a route that does not take the method. -/
  | wrongMethod
  | unknown
deriving DecidableEq

/-- Looks up a path and a method. A path that leads nowhere is tried again with merged slashes. -/
def lookup (path method : Text) : Lookup :=
  let merged := Target.mergeSlashes path
  match ofPath? path, ofPath? merged with
  | some route, other =>
    if route.takes method then .found route
    else if other.any (·.takes method) then .moved merged
    else .wrongMethod
  | none, some route => if route.takes method then .moved merged else .wrongMethod
  | none, none => .unknown

end Route

end SnippetReview
