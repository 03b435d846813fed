import SnippetReview.Rule.Balance
import SnippetReview.Rule.Condition
import SnippetReview.Rule.Semicolon

/-!
The Java checker: rules about the whole snippet first, then assignments in conditions, then missing
semicolons.
-/

set_option autoImplicit false

namespace SnippetReview.Java

def skips (trimmed : Text) : Bool :=
  trimmed.isEmpty || trimmed.startsWithAny ["//", "*", "@", "import", "package"]

def modifier : Pattern :=
  Pattern.optional (.oneOf ["public", "private", "protected", "static"])

def semicolons : Semicolon.Style where
  statements := [
    modifier ++ Pattern.blanks ++ Semicolon.declaration
      ["int", "String", "double", "boolean", "void", "long", "char", "float"],
    Semicolon.assignmentStatement,
    Semicolon.callStatement,
    Semicolon.namedCall ["System.out.println", "System.out.print", "return"]]
  structural := ["\x7b", "\x7d"]
  hint := "Add a semicolon (;) at the end of variable declarations, assignments, and method calls"

def classPresentRule : SourceRule where
  name := "class-present"
  fires source := !Text.occursIn "class " source
  report _ := Diagnostic.ofSource
    "Missing class definition - Java programs need at least one public class"
    "Add: public class ClassName \x7b ... \x7d"

def mainPresentRule : SourceRule where
  name := "main-present"
  fires source := !Text.occursIn "main" source
  report _ := Diagnostic.ofSource
    "Missing main() method - must have: public static void main(String[] args)"
    "Add the main method as entry point"

def sourceRules : List SourceRule :=
  balanceRules ++ [classPresentRule, mainPresentRule]

def lineRules : List LineRule :=
  [Condition.bracketedRule, semicolons.rule]

def check (source : Text) : List Diagnostic :=
  SourceRule.check sourceRules source ++
    LineRule.check [Condition.bracketedRule] LineRule.skipNone source ++
    LineRule.check [semicolons.rule] skips source

end SnippetReview.Java
