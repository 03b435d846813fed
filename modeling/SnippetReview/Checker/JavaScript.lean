import SnippetReview.Diagnostic
import SnippetReview.Rule.Class
import SnippetReview.Script.Tree
import SnippetReview.Text.Digit

/-!
The JavaScript checker: the first problem of the syntax tree, told in the words of a runtime.

Half-written code is left alone: nothing is said of a snippet that ends like the head of something,
or in which nothing follows the problem. At most one diagnostic is given.
-/

set_option autoImplicit false

namespace SnippetReview.JavaScript

def partialEndings : List Text := [")", "\x7b", ":"]

/-- The message when nothing follows the problem. -/
def endMessage : Text := "SyntaxError: Unexpected end of input"

def tokenMessage (token : Text) : Text :=
  Text.ofString "SyntaxError: Unexpected token " ++ token

def endMarker : Text := "Unexpected end"

/-- Pieces of messages and the advice that goes with them; the first that fits is taken. -/
def hints : List (Text × Text) := [
  ("Unexpected token", "Check brackets, parentheses, and quotes balance."),
  ("is not defined", "Variable may not be declared. Use const/let/var."),
  ("Cannot read properties", "Trying to access property on undefined/null value."),
  ("Invalid or unexpected token", "Check syntax near the error location.")]

def hint (message : Text) : Text :=
  match hints.find? fun hint => hint.1.occursIn message with
  | some (_, advice) => advice
  | none => "Review the syntax near the error line."

/-- The bytes from one place up to another; a negative place counts from the end. -/
def slice (bytes : Bytes) (start : Int) (stop : Nat) : Bytes :=
  let first := if start < 0 then (start + bytes.length).toNat else start.toNat
  (bytes.take stop).drop first

/-- The column of a node: characters since the start of its line, counted from one. -/
def column (bytes : Bytes) (span : Span) : Nat :=
  (Utf8.decodeReplacing (slice bytes ((span.start : Int) - span.column) span.start)).length + 1

/-- A name, a run of digits, or a single visible code point. -/
def tokenPattern : Pattern :=
  (.one (fun c => c.isAsciiLetter || c = '_' || c = '$') ++ .many (fun c => c.isWord || c = '$'))
    <|> .atLeastOne CodePoint.isDigit <|> .one (!·.isBlank)

def firstToken? (bytes : Bytes) : Option Text :=
  Pattern.find? .empty tokenPattern (Utf8.decodeReplacing bytes)

def leafText (bytes : Bytes) (span : Span) : Text :=
  (Utf8.decodeReplacing (slice bytes span.start span.stop)).trim

/-- What is wrong: the token after something missing, or else the text of the first leaf. -/
def describe (bytes : Bytes) (problem : SyntaxTree) : Text :=
  if problem.isMissing then
    match firstToken? (bytes.drop problem.span.start) with
    | some token => tokenMessage token
    | none => endMessage
  else
    match leafText bytes problem.firstLeaf.span with
    | [] => endMessage
    | text => tokenMessage text

/-- The kind of an error, a colon and a gap. -/
def errorKind : Pattern :=
  .atLeastOne CodePoint.isWord ++ Pattern.char ':' ++ Pattern.gap

/-- The detail of an error message: the rest of the line after the kind of error. -/
def detail? (message : Text) : Option Text :=
  Pattern.find? errorKind (.atLeastOne CodePoint.inLine) message

/-- The diagnostic for an error message. Advice is given on its detail, which takes its place; a
message of another form is kept whole. -/
def diagnosticOf (message : Text) (line column : Option Int) : Diagnostic :=
  match detail? message with
  | some detail => ⟨detail, Diagnostic.error, line, column, some (hint detail)⟩
  | none => ⟨message, Diagnostic.error, line, column, none⟩

def anchor (problem : SyntaxTree) : SyntaxTree :=
  if problem.isMissing then problem else problem.firstLeaf

def report (bytes : Bytes) (tree : SyntaxTree) : List Diagnostic :=
  if tree.hasError then
    let problem := tree.firstProblem
    let message := describe bytes problem
    if endMarker.occursIn message then []
    else
      let span := (anchor problem).span
      [diagnosticOf message (some (span.row + 1)) (some (column bytes span))]
  else []

/-- What is wrong with a snippet, by the given parser. A snippet has to be encoded to be parsed. -/
def check (parse : Text → SyntaxTree) (source : Text) : Except Utf8.Unencodable (List Diagnostic) :=
  if source.trim.endsWithAny partialEndings then .ok []
  else (Utf8.encode source).map fun bytes => report bytes (parse source)

/-- The calls of itself that the search for a problem of a snippet takes; none if there is no search
at all. -/
def searchDepth (parse : Text → SyntaxTree) (source : Text) : Nat :=
  if source.trim.endsWithAny partialEndings then 0
  else
    match Utf8.encode source with
    | .error _ => 0
    | .ok _ => if (parse source).hasError then (parse source).searchDepth else 0

end SnippetReview.JavaScript
