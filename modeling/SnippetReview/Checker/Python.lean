import SnippetReview.Rule.Balance
import SnippetReview.Rule.Condition

/-!
The Python checker: rules about single lines, so that half-written snippets get advice too.
-/

set_option autoImplicit false

namespace SnippetReview.Python

def skips (trimmed : Text) : Bool :=
  trimmed.isEmpty || trimmed.startsWithAny ["#"]

def printPattern : Pattern :=
  .boundary ++ .exactly "print" ++ Pattern.gap ++ Pattern.notChar '('

/-- `print` as a statement. A line that also calls `print` is let through. -/
def printRule : LineRule where
  name := "print-statement"
  fires _ trimmed := printPattern.occursIn trimmed && !Text.occursIn "print(" trimmed
  report _ _ number := Diagnostic.ofLine number
    "'print' statement without parentheses - use print() not print"
    "Python 3 requires parentheses. Use: print(\"text\") instead of print \"text\""

def blockKeywords : List Text :=
  ["if", "elif", "else", "for", "while", "def", "class", "try", "except", "finally", "with"]

def loneKeywords : List Text := ["else", "finally"]

def blockPattern : Pattern :=
  Pattern.blanks ++ .oneOf blockKeywords ++ .boundary

def leadingWord (text : Text) : Text :=
  (Pattern.partAfter Pattern.blanks (.atLeastOne CodePoint.isWord) (Cursor.start text)).getD []

def colonMessage (keyword : Text) : Text :=
  Text.ofString "'" ++ keyword ++ "' statement must end with a colon (:)"

def blockColonRule : LineRule where
  name := "block-colon"
  fires line trimmed := blockPattern.matchesStart line && !trimmed.endsWithAny [":"] &&
    !loneKeywords.contains (leadingWord trimmed)
  report _ trimmed number := Diagnostic.ofLine number (colonMessage (leadingWord trimmed))
    (Text.ofString "Add a ':' at the end of the '" ++ leadingWord trimmed ++ "' line")

/-- A line that starts like a lone keyword, whatever follows it. -/
def lonePattern : Pattern :=
  Pattern.blanks ++ .oneOf loneKeywords ++ Pattern.blanks

def firstField (text : Text) : Text :=
  text.takeWhile (!·.isBlank)

def loneColonRule : LineRule where
  name := "else-finally-colon"
  fires line trimmed := lonePattern.matchesStart line && !trimmed.endsWithAny [":"]
  report _ trimmed number := Diagnostic.ofLine number (colonMessage (firstField trimmed))
    (Text.ofString "Use: " ++ firstField trimmed ++ ": (with colon)")

def bareCallPattern (function : Text) : Pattern :=
  .boundary ++ .exactly function ++ Pattern.gap ++ .atLeastOne CodePoint.isWord

/-- A function used like a keyword. A line that also calls it is let through. -/
def bareCallRule (function advice : Text) : LineRule where
  name := function ++ "-call"
  fires _ trimmed := (bareCallPattern function).occursIn trimmed &&
    !Text.occursIn (function ++ "(") trimmed
  report _ _ number := Diagnostic.ofLine number
    (Text.ofString "'" ++ function ++ "' should be used as a function: " ++ function ++ "(...)")
    advice

def rules : List LineRule := [
  printRule,
  blockColonRule,
  loneColonRule,
  Condition.openRule,
  bareCallRule "len" "Use: len(variable) with parentheses, not len variable",
  bareCallRule "range" "Use: range(10) with parentheses, not range 10",
  Bracket.parentheses.lineRule,
  Bracket.brackets.lineRule,
  Bracket.braces.lineRule]

def check (source : Text) : List Diagnostic :=
  LineRule.check rules skips source

end SnippetReview.Python
