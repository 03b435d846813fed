import SnippetReview.Json.Basic

/-!
Diagnostics: what a checker reports about a snippet.
-/

set_option autoImplicit false

namespace SnippetReview

/-- One reported problem. Lines and columns count from one where a checker sets them. -/
structure Diagnostic where
  message : Text
  severity : Text
  line : Option Int
  column : Option Int
  hint : Option Text
deriving DecidableEq

namespace Diagnostic

/-- The severity of everything that the checkers report. -/
def error : Text := "error"

def ofSource (message hint : Text) : Diagnostic :=
  ⟨message, error, none, none, some hint⟩

def ofLine (line : Int) (message hint : Text) : Diagnostic :=
  ⟨message, error, some line, none, some hint⟩

/-- The members of a diagnostic as JSON; what is not set has no member. -/
def toJson (diagnostic : Diagnostic) : Json :=
  .obj (Json.member "message" (.str diagnostic.message) ::
    Json.member "severity" (.str diagnostic.severity) ::
    (Json.optionalMember "line" (diagnostic.line.map .int) ++
      Json.optionalMember "column" (diagnostic.column.map .int) ++
      Json.optionalMember "hint" (diagnostic.hint.map .str)))

end Diagnostic

end SnippetReview
