import SnippetReview.Text.Case

/-!
The languages that snippets are written in, and how a free-form hint names one.
-/

set_option autoImplicit false

namespace SnippetReview

inductive Language where
  | javascript
  | python
  | c
  | java
  | other
deriving DecidableEq

namespace Language

def name : Language → Text
  | javascript => "javascript"
  | python => "python"
  | c => "c"
  | java => "java"
  | other => "other"

def mentions (words : List Text) (text : Text) : Bool :=
  words.any (·.occursIn text)

/-- The language that a hint in lower case names. Scripts come first, since their names contain
those of other languages; for the same reason Java must not be followed by "script". -/
def ofLower (hint : Text) : Language :=
  if mentions ["js", "javascript", "ts", "typescript"] hint then javascript
  else if mentions ["python", "py"] hint then python
  else if mentions ["java"] hint && !mentions ["script"] hint then java
  else if mentions ["c"] hint then c
  else other

def resolve (hint : Option Text) : Language :=
  ofLower (hint.getD []).lower

end Language

end SnippetReview
