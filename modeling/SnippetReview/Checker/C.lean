import SnippetReview.Rule.Balance
import SnippetReview.Rule.Condition
import SnippetReview.Rule.Semicolon

/-!
The C checker: rules about the whole snippet first, then assignments in conditions, then missing
semicolons.
-/

set_option autoImplicit false

namespace SnippetReview.C

/-- Blank lines, comments and directives are not looked at for semicolons. -/
def skips (trimmed : Text) : Bool :=
  trimmed.isEmpty || trimmed.startsWithAny ["//", "*", "#"]

def semicolons : Semicolon.Style where
  statements := [
    Semicolon.declaration
      ["int", "char", "float", "double", "void", "long", "short", "unsigned"],
    Semicolon.assignmentStatement,
    Semicolon.callStatement,
    Semicolon.namedCall ["printf", "scanf", "return"]]
  structural := ["\x7b", "\x7d", "\x7d,"]
  hint := "Add a semicolon (;) at the end of variable declarations, assignments, and function calls"

def mainPresentRule : SourceRule where
  name := "main-present"
  fires source := !Text.occursIn "main" source
  report _ := Diagnostic.ofSource
    "Missing main() function - every C program needs a main function"
    "Add: int main() \x7b ... return 0; \x7d"

/-- The head of an entry point without parameters, up to its opening brace. -/
def mainHead : Pattern :=
  .exactly "int" ++ Pattern.gap ++ .exactly "main" ++ Pattern.blanks ++ Pattern.char '(' ++
    Pattern.blanks ++ Pattern.char ')' ++ Pattern.blanks ++ Pattern.char '\x7b'

def mainBody? (source : Text) : Option Text :=
  Pattern.find? mainHead (.many (· ≠ '\x7d')) source

def mainReturnsRule : SourceRule where
  name := "main-returns"
  fires source := (mainBody? source).any fun body => !Text.occursIn "return" body
  report _ := Diagnostic.ofSource
    "main() function should have a return statement"
    "Add: return 0; at the end of main()"

def sourceRules : List SourceRule :=
  balanceRules ++ [mainPresentRule, mainReturnsRule]

def lineRules : List LineRule :=
  [Condition.bracketedRule, semicolons.rule]

def check (source : Text) : List Diagnostic :=
  SourceRule.check sourceRules source ++
    LineRule.check [Condition.bracketedRule] LineRule.skipNone source ++
    LineRule.check [semicolons.rule] skips source

end SnippetReview.C
