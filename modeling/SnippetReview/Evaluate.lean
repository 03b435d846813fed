import SnippetReview.Checker.C
import SnippetReview.Checker.Java
import SnippetReview.Checker.JavaScript
import SnippetReview.Checker.Python
import SnippetReview.Language
import SnippetReview.Verdict

/-!
The evaluation of a submission: the checker of its language, and what is said beside the errors.
-/

set_option autoImplicit false

namespace SnippetReview.Evaluate

def emptyMessage : Text := "Code cannot be empty"

def emptyGuidance : Text := "Write some code to get started!"

def consoleGuidance : Text := "✓ Found console.log for debugging."

def shortGuidance : Text := "💡 Try adding more logic to make this code meaningful."

def cleanGuidance : Text := "✓ No syntax errors detected! Good job."

def success : Text := "✅ Your code is correct!"

def meaningfulLength : Nat := 10

def errors (parse : Text → SyntaxTree) (language : Language) (source : Text) :
    Except Utf8.Unencodable (List Diagnostic) :=
  match language with
  | .javascript => JavaScript.check parse source
  | .python => .ok (Python.check source)
  | .c => .ok (C.check source)
  | .java => .ok (Java.check source)
  | .other => .ok []

def guidance (language : Language) (source : Text) (errors : List Diagnostic) : List Text :=
  (if language = .javascript && Text.occursIn "console.log" source then [consoleGuidance]
    else []) ++
    (if source.trim.length < meaningfulLength then [shortGuidance] else []) ++
    (if errors.isEmpty then [cleanGuidance] else [])

def emptyVerdict : Verdict where
  isValid := false
  language := Language.other.name
  errors := [⟨emptyMessage, Diagnostic.error, none, none, none⟩]
  warnings := []
  guidance := [emptyGuidance]
  successMessage := none

def verdict (language : Language) (source : Text) (errors : List Diagnostic) : Verdict where
  isValid := errors.isEmpty
  language := language.name
  errors := errors
  warnings := []
  guidance := guidance language source errors
  successMessage := if errors.isEmpty then some success else none

def evaluate (parse : Text → SyntaxTree) (submission hint : Option Text) :
    Except Utf8.Unencodable Verdict :=
  let source := submission.getD []
  if source.isBlank then .ok emptyVerdict
  else
    let language := Language.resolve hint
    (errors parse language source).map (verdict language source)

/-- Why a submission gets no verdict: it cannot be encoded, or its problem lies too deep. -/
inductive Failure where
  | unencodable (run : Utf8.Unencodable)
  | tooDeep
deriving DecidableEq

def Failure.message : Failure → Text
  | unencodable run => run.message
  | tooDeep => "maximum recursion depth exceeded"

def searchDepth (parse : Text → SyntaxTree) (submission hint : Option Text) : Nat :=
  let source := submission.getD []
  if !source.isBlank && Language.resolve hint = .javascript then
    JavaScript.searchDepth parse source
  else 0

/-- The verdict on a submission, if a search may take so many calls of itself. -/
def evaluateWithin (calls : Nat) (parse : Text → SyntaxTree) (submission hint : Option Text) :
    Except Failure Verdict :=
  if calls < searchDepth parse submission hint then .error .tooDeep
  else (evaluate parse submission hint).mapError .unencodable

end SnippetReview.Evaluate
