import SnippetReview.Text.Pattern

/-!
The classes of code points, and the pieces of patterns, that the rules share.
-/

set_option autoImplicit false

namespace SnippetReview

namespace CodePoint

def inLine (c : CodePoint) : Bool :=
  c ≠ '\n'

def endsExpression (c : CodePoint) : Bool :=
  c.isAsciiAlphanumeric || c = '_' || c = ')' || c = ']'

/-- What makes an equals sign after it a comparison. -/
def isComparison (c : CodePoint) : Bool :=
  c = '!' || c = '=' || c = '<' || c = '>'

end CodePoint

namespace Pattern

def char (c : CodePoint) : Pattern :=
  one (· = c)

def notChar (c : CodePoint) : Pattern :=
  one (· ≠ c)

def blanks : Pattern :=
  many CodePoint.isBlank

def gap : Pattern :=
  atLeastOne CodePoint.isBlank

def anything : Pattern :=
  many CodePoint.inLine

/-- An equals sign between blanks: not after a comparison sign, and not before another equals
sign. -/
def assignment : Pattern :=
  one (!·.isComparison) ++ one CodePoint.isBlank ++ char '=' ++ one CodePoint.isBlank ++ notChar '='

end Pattern

end SnippetReview
