import SnippetReview.Json.Encoding
import SnippetReview.Server.Message
import SnippetReview.Text.Blank

/-!
What a request submits: the JSON object in its body. A body that is not declared as JSON, is no JSON
or holds no object counts as an empty object, and a member that is no string as empty text. Nothing
is submitted by a body that is nested too deeply to be read.
-/

set_option autoImplicit false

namespace SnippetReview

namespace Request

/-- The declared type of the content, in lower case and without parameters. -/
def mediaType (request : Request) : Text :=
  let declared := (request.headers.get? "Content-Type").getD []
  let type : Text := declared.takeWhile (· ≠ CodePoint.ofChar ';')
  type.trim.lower

def declaresJson (request : Request) : Bool :=
  request.mediaType = Text.ofString "application/json" ||
    (request.mediaType.startsWithAny ["application/"] && request.mediaType.endsWithAny ["+json"])

/-- The submitted object, read with a limit on the nesting. -/
def submission? (limit : Nat) (request : Request) : Option Json :=
  if request.declaresJson then
    match Json.ofBytes limit request.body with
    | .ok (.obj members) => some (.obj members)
    | .ok _ | .error .malformed => some (.obj [])
    | .error .tooDeep => none
  else some (.obj [])

end Request

def Json.text (submitted : Json) (name : Text) : Text :=
  ((submitted.member? name).bind Json.str?).getD []

end SnippetReview
