import SnippetReview.Diagnostic
import SnippetReview.Text.Blank

/-!
Rules, and how a list of them is applied to a snippet.

A rule says when it fires and what it then reports. Source rules see the snippet as a whole; line
rules see one line, as it stands and trimmed. All rules of a list are tried in order.
-/

set_option autoImplicit false

namespace SnippetReview

structure SourceRule where
  name : Text
  fires : Text → Bool
  report : Text → Diagnostic

/-- A rule about one line, given as it stands and trimmed. The report is also given its number. -/
structure LineRule where
  name : Text
  fires : Text → Text → Bool
  report : Text → Text → Int → Diagnostic

namespace SourceRule

def check (rules : List SourceRule) (source : Text) : List Diagnostic :=
  (rules.filter fun rule => rule.fires source).map fun rule => rule.report source

end SourceRule

namespace LineRule

def checkLine (rules : List LineRule) (skips : Text → Bool) (number : Int) (line : Text) :
    List Diagnostic :=
  let trimmed := line.trim
  if skips trimmed then []
  else (rules.filter fun rule => rule.fires line trimmed).map fun rule =>
    rule.report line trimmed number

/-- What the rules report about lines that are numbered from a given number on. -/
def checkLines (rules : List LineRule) (skips : Text → Bool) : Int → List Text → List Diagnostic
  | _, [] => []
  | number, line :: rest =>
    checkLine rules skips number line ++ checkLines rules skips (number + 1) rest

def check (rules : List LineRule) (skips : Text → Bool) (source : Text) : List Diagnostic :=
  checkLines rules skips 1 source.lines

def skipNone : Text → Bool :=
  fun _ => false

end LineRule

end SnippetReview
