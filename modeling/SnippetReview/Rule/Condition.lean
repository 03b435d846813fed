import SnippetReview.Rule.Basic
import SnippetReview.Rule.Class

/-!
Assignment where a comparison is meant: `=` inside the head of a conditional or a loop.
-/

set_option autoImplicit false

namespace SnippetReview.Condition

def message (keyword : Text) : Text :=
  Text.ofString "Possible assignment (=) instead of comparison (==) in " ++ keyword ++ " condition"

/-- The leftmost of the keywords that stands as a word by itself. -/
def keyword? (keywords : List Text) (text : Text) : Option Text :=
  Pattern.find? .boundary (Pattern.oneOf keywords ++ .boundary) text

/-- The keyword of a line, or a general word if it has none. -/
def keyword (keywords : List Text) (text : Text) : Text :=
  (keyword? keywords text).getD "conditional"

def bracketedKeywords : List Text := ["if", "while", "for"]

def bracketedPattern : Pattern :=
  .boundary ++ Pattern.oneOf bracketedKeywords ++ Pattern.blanks ++ Pattern.char '(' ++
    .many (· ≠ ')') ++ Pattern.assignment ++ .many (· ≠ ')') ++ Pattern.char ')'

def bracketedRule : LineRule where
  name := "assignment-in-condition"
  fires line _ := bracketedPattern.occursIn line
  report line _ number := Diagnostic.ofLine number (message (keyword bracketedKeywords line))
    ("Use == for comparison instead of = for assignment. " ++
      "For example: if (num == 5) not if (num = 5)")

def openKeywords : List Text := ["if", "elif", "while", "for"]

def openPattern : Pattern :=
  .boundary ++ Pattern.oneOf openKeywords ++ .boundary ++ Pattern.anything ++ Pattern.assignment

def openRule : LineRule where
  name := "assignment-in-condition"
  fires _ trimmed := openPattern.occursIn trimmed
  report _ trimmed number := Diagnostic.ofLine number (message (keyword openKeywords trimmed))
    ("Use == for comparison instead of = for assignment. " ++
      "For example: if x == 5 not if x = 5")

end SnippetReview.Condition
