import SnippetReview.Rule.Basic
import SnippetReview.Text.Numeral

/-!
Bracket balance: as many closing brackets of a kind as opening ones, in the whole snippet or on each
line by itself. Only the numbers are compared, so order and nesting do not matter.
-/

set_option autoImplicit false

namespace SnippetReview

structure Bracket where
  name : Text
  opening : CodePoint
  closing : CodePoint

namespace Bracket

def braces : Bracket := ⟨"braces", '\x7b', '\x7d'⟩

def parentheses : Bracket := ⟨"parentheses", '(', ')'⟩

def brackets : Bracket := ⟨"brackets", '[', ']'⟩

def isUnbalanced (bracket : Bracket) (text : Text) : Bool :=
  text.count bracket.opening != text.count bracket.closing

def ruleName (bracket : Bracket) : Text :=
  Text.ofString "balanced-" ++ bracket.name

/-- The rule that the whole snippet is balanced; it reports both numbers. -/
def sourceRule (bracket : Bracket) : SourceRule where
  name := bracket.ruleName
  fires := bracket.isUnbalanced
  report source := Diagnostic.ofSource
    (Text.ofString "Mismatched " ++ bracket.name ++ ": " ++
      Numeral.ofNat (source.count bracket.opening) ++ " opening, " ++
      Numeral.ofNat (source.count bracket.closing) ++ " closing")
    (Text.ofString "Make sure every " ++ [bracket.opening] ++ " has a corresponding " ++
      [bracket.closing])

def lineRule (bracket : Bracket) : LineRule where
  name := bracket.ruleName
  fires line _ := bracket.isUnbalanced line
  report _ _ number := Diagnostic.ofLine number
    (Text.ofString "Mismatched " ++ bracket.name)
    (Text.ofString "Check that all " ++ [bracket.opening] ++ " are closed with " ++
      [bracket.closing])

end Bracket

def balanceRules : List SourceRule :=
  [Bracket.braces, Bracket.parentheses, Bracket.brackets].map Bracket.sourceRule

end SnippetReview
