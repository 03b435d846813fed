import SnippetReview.Json.Printer
import SnippetReview.Text.Case
import SnippetReview.Text.Utf8

/-!
Requests to the service, its responses, and what it writes to its log.
-/

set_option autoImplicit false

namespace SnippetReview

abbrev Headers := List (Text × Text)

def Headers.get? (headers : Headers) (name : Text) : Option Text :=
  (headers.find? fun field => field.1.lower = name.lower).map Prod.snd

structure Request where
  method : Text
  target : Text
  headers : Headers
  body : Bytes

inductive LogLevel where
  | info
  | warning
  | error
deriving DecidableEq

def LogLevel.name : LogLevel → Text
  | info => "INFO"
  | warning => "WARNING"
  | error => "ERROR"

structure LogRecord where
  level : LogLevel
  message : Text
deriving DecidableEq

inductive Body where
  | json (value : Json)
  | page (text : Text)

namespace Body

/-- The text that is sent: JSON with members in alphabetical order, ended by a line feed. -/
def text : Body → Text
  | json value => value.sorted.compact ++ [CodePoint.ofChar '\n']
  | page text => text

def contentType : Body → Text
  | json _ => "application/json"
  | page _ => "text/html; charset=utf-8"

end Body

structure Response where
  status : Nat
  contentType : Text
  body : Body
  headers : Headers
  log : List LogRecord

namespace Response

def of (status : Nat) (body : Body) (log : List LogRecord) : Response :=
  ⟨status, body.contentType, body, [], log⟩

def object (status : Nat) (members : List (Text × Json)) (log : List LogRecord) : Response :=
  of status (.json (.obj members)) log

def refusal (status : Nat) (message : Text) (log : List LogRecord) : Response :=
  object status [Json.member "ok" (.bool false), Json.member "message" (.str message)] log

def failure : Response :=
  of 500 (.page (Text.ofString "<!doctype html>\n<html lang=en>\n" ++
    "<title>500 Internal Server Error</title>\n<h1>Internal Server Error</h1>\n" ++
    "<p>The server encountered an internal error and was unable to complete your request. " ++
    "Either the server is overloaded or there is an error in the application.</p>\n")) []

def withoutBody (response : Response) : Response :=
  { response with body := .page [] }

end Response

end SnippetReview
