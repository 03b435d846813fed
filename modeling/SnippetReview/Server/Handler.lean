import SnippetReview.Evaluate
import SnippetReview.Server.Submission
import SnippetReview.Settings.Basic
import SnippetReview.Token.Basic

/-!
What each route does: the liveness probe, the evaluation of a snippet, and the exchange of
credentials for a token.
-/

set_option autoImplicit false

namespace SnippetReview.Handler

def health : Response :=
  .object 200 [Json.member "ok" (.bool true)] []

def noCode : Diagnostic :=
  Diagnostic.ofSource "Please paste your code before analyzing."
    "Add some code, then click Analyze."

def rejected (status : Nat) (message language : Text) (errors : List Diagnostic)
    (guidance : List Text) (log : List LogRecord) : Response :=
  .object status [
    Json.member "ok" (.bool true),
    Json.member "isCorrect" (.bool false),
    Json.member "message" (.str message),
    Json.member "details" (.obj [
      Json.member "language" (.str language),
      Json.member "errors" (.arr (errors.map Diagnostic.toJson)),
      Json.member "guidance" (.arr (guidance.map .str))])] log

def analyzed (source : Text) (verdict : Verdict) : LogRecord where
  level := .info
  message := Text.ofString "Analyzed " ++ Numeral.ofNat source.length ++ " chars as " ++
    verdict.language ++ ": " ++ Numeral.ofNat verdict.errors.length ++ " error(s)"

/-- The response to a verdict: no more than praise if it is good. -/
def ofVerdict (source : Text) (verdict : Verdict) : Response :=
  let log := [analyzed source verdict]
  if verdict.isValid then
    .object 200 [Json.member "ok" (.bool true), Json.member "isCorrect" (.bool true),
      Json.member "message" (.str "Yes you are right")] log
  else rejected 200 "Issues found" verdict.language verdict.errors verdict.guidance log

def ofFailure (language : Text) (failure : Evaluate.Failure) : Response :=
  .object 500 [Json.member "ok" (.bool false), Json.member "message" (.str "Backend error"),
      Json.member "error" (.str failure.message)]
    [⟨.error, Text.ofString "Evaluation failed for language=" ++ Quoted.encode language⟩]

def languageOf (settings : Settings) (submitted : Json) : Text :=
  let language := submitted.text "language"
  if language.isEmpty then settings.defaultLanguage else language

def analyze (settings : Settings) (calls : Nat) (parse : Text → SyntaxTree) (submitted : Json) :
    Response :=
  let source := submitted.text "code"
  let language := languageOf settings submitted
  if source.isBlank then rejected 400 "No code provided" language [noCode] [] []
  else
    match Evaluate.evaluateWithin calls parse (some source) (some language) with
    | .ok verdict => ofVerdict source verdict
    | .error failure => ofFailure language failure

/-- Whether credentials are those of the account, compared as bytes. -/
def credentialsMatch (settings : Settings) (username password : Text) :
    Except Utf8.Unencodable Bool := do
  let user ← Utf8.encode username
  let adminUser ← Utf8.encode settings.adminUser
  let pass ← Utf8.encode password
  let adminPass ← Utf8.encode settings.adminPass
  return user == adminUser && pass == adminPass

def loginFailed (username : Text) : LogRecord where
  level := .warning
  message := Text.ofString "Failed login attempt for user " ++ Quoted.encode username

def login (settings : Settings) (now : Int) (submitted : Json) : Response :=
  let username := submitted.text "username"
  let password := submitted.text "password"
  if username.isEmpty || password.isEmpty then .refusal 400 "Missing username or password" []
  else
    match credentialsMatch settings username password with
    | .error _ => .failure
    | .ok false => .refusal 401 "Invalid credentials" [loginFailed username]
    | .ok true =>
      match Token.issue username settings.authSecret settings.tokenLifetime now with
      | .error _ => .failure
      | .ok token =>
        .object 200 [Json.member "ok" (.bool true), Json.member "token" (.str token)] []

def onSubmission (limit : Nat) (request : Request) (answer : Json → Response) : Response :=
  match request.submission? limit with
  | none => .failure
  | some submitted => answer submitted

end SnippetReview.Handler
