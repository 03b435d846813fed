import SnippetReview.Rule.Basic
import SnippetReview.Rule.Class

/-!
Missing semicolons, in languages where each statement ends with one.

A line needs a semicolon if it looks like a statement of the language and is not exempt. What looks
like a statement ends like an expression.
-/

set_option autoImplicit false

namespace SnippetReview.Semicolon

def expressionEnd : Pattern :=
  .one CodePoint.endsExpression ++ Pattern.blanks ++ .finish

def assignmentStatement : Pattern :=
  .one (fun c => c.isAsciiLetter || c = '_') ++ .many CodePoint.isWord ++ Pattern.blanks ++
    Pattern.char '=' ++ Pattern.anything ++ expressionEnd

/-- A name with something in parentheses, and one more character that could end a name, a number or
a group. -/
def callStatement : Pattern :=
  .atLeastOne CodePoint.isWord ++ Pattern.blanks ++ Pattern.char '(' ++ .many (· ≠ ')') ++
    Pattern.char ')' ++ Pattern.blanks ++
    .one (fun c => c.isAsciiAlphanumeric || c = '_' || c = ')') ++ Pattern.blanks ++ .finish

/-- A type name and a declaration. -/
def declaration (types : List Text) : Pattern :=
  Pattern.oneOf types ++ Pattern.gap ++ Pattern.anything ++ expressionEnd

def namedCall (names : List Text) : Pattern :=
  Pattern.oneOf names ++ Pattern.blanks ++ Pattern.char '(' ++ Pattern.anything ++
    Pattern.char ')' ++ Pattern.blanks ++ .finish

def controlWords : List Text := ["if", "else", "for", "while"]

/-- What the rule knows of a language. -/
structure Style where
  /-- What statements look like. -/
  statements : List Pattern
  /-- Lines that are structure and nothing else. -/
  structural : List Text
  hint : Text

namespace Style

/-- Structure, the head of a control statement, and the start of a block need no semicolon. -/
def isExempt (style : Style) (trimmed : Text) : Bool :=
  style.structural.contains trimmed || trimmed.startsWithAny controlWords ||
    trimmed.endsWithAny ["\x7b"]

def lacksSemicolon (style : Style) (trimmed : Text) : Bool :=
  !style.isExempt trimmed && style.statements.any (·.matchesStart trimmed) &&
    !trimmed.endsWithAny [";", ","]

def rule (style : Style) : LineRule where
  name := "missing-semicolon"
  fires _ trimmed := style.lacksSemicolon trimmed
  report _ trimmed number := Diagnostic.ofLine number
    (Text.ofString "Missing semicolon at end of statement: \"" ++ trimmed ++ "\"") style.hint

end Style

end SnippetReview.Semicolon
