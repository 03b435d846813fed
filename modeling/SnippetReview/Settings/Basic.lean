import SnippetReview.Settings.Assignments
import SnippetReview.Text.Case
import SnippetReview.Text.Numeral
import SnippetReview.Text.Quoted

/-!
The settings of the service, read from the environment and a file of assignments.

A name that is set in the environment, even to nothing, is not taken from the file.
-/

set_option autoImplicit false

namespace SnippetReview

structure Settings where
  adminUser : Text
  adminPass : Text
  authSecret : Text
  tokenLifetime : Int
  defaultLanguage : Text
  origins : List Text
  host : Text
  port : Int
  debug : Bool
  logLevel : Text
deriving DecidableEq

structure SettingsError where
  name : Text
  value : Text
deriving DecidableEq

def SettingsError.message (error : SettingsError) : Text :=
  Text.ofString "Environment variable " ++ error.name ++ " must be an integer, got " ++
    Quoted.encode error.value ++ "."

namespace Settings

def default : Settings where
  adminUser := "cogz"
  adminPass := "cogz"
  authSecret := "dev-secret-change-me"
  tokenLifetime := 604800
  defaultLanguage := "javascript"
  origins := ["http://localhost:3000", "http://127.0.0.1:3000", "http://localhost:5173"]
  host := "0.0.0.0"
  port := 8000
  debug := false
  logLevel := "INFO"

/-- Names and their values; of several values of a name the first counts. -/
abbrev Environment := List (Text × Text)

/-- The values that a file gives to names; the last line about a name counts, even if it gives no
value. -/
def ofAssignments (assignments : List Assignments.Assignment) : Environment :=
  assignments.reverse.filterMap fun (name, _) =>
    ((assignments.reverse.lookup name).getD none).map fun value => (name, value)

def merge (environment : Environment) (file : Option Text) : Environment :=
  environment ++ (file.map fun file => ofAssignments (Assignments.read file)).getD []

/-- The integer that a variable holds; a blank one counts as not set. -/
def integer (environment : Environment) (name : Text) (default : Int) : Except SettingsError Int :=
  match environment.lookup name with
  | none => .ok default
  | some value =>
    if value.isBlank then .ok default
    else match Numeral.int? value with
      | some n => .ok n
      | none => .error ⟨name, value⟩

/-- The items between the commas of a text, trimmed, without the blank ones. -/
def commaList (text : Text) : List Text :=
  ((text.splitOn ',').map Text.trim).filter (!·.isEmpty)

/-- The list that a variable holds; an empty text counts as not set. -/
def list (environment : Environment) (name : Text) (default : List Text) : List Text :=
  match environment.lookup name with
  | none => default
  | some value => if value.isEmpty then default else commaList value

def affirmations : List Text := ["1", "true", "yes"]

/-- The settings of an environment. The first variable that is not an integer is an error. -/
def ofEnvironment (environment : Environment) : Except SettingsError Settings := do
  let text (name default : Text) : Text := (environment.lookup name).getD default
  let tokenLifetime ← integer environment "TOKEN_TTL_SECONDS" default.tokenLifetime
  let port ← integer environment "PORT" default.port
  return {
    adminUser := text "ADMIN_USER" default.adminUser
    adminPass := text "ADMIN_PASS" default.adminPass
    authSecret := text "AUTH_SECRET" default.authSecret
    tokenLifetime := tokenLifetime
    defaultLanguage := text "DEFAULT_LANGUAGE" default.defaultLanguage
    origins := list environment "CORS_ORIGINS" default.origins
    host := text "HOST" default.host
    port := port
    debug := affirmations.contains (text "FLASK_DEBUG" []).lower
    logLevel := (text "LOG_LEVEL" default.logLevel).upper }

def load (environment : Environment) (file : Option Text) : Except SettingsError Settings :=
  ofEnvironment (merge environment file)

end Settings

end SnippetReview
