import SnippetReview.Json.Printer
import SnippetReview.Token.Base64Url
import SnippetReview.Token.Sha256

/-!
Signed tokens: the payload, a point, and a signature of the payload under a secret.

The payload names the subject, the time of issue and the time of expiry, in seconds.
-/

set_option autoImplicit false

namespace SnippetReview

inductive TokenError where
  /-- A time has more digits than are ever written. -/
  | timeTooLong
  /-- The secret has no bytes. -/
  | secretUnencodable (run : Utf8.Unencodable)
deriving DecidableEq

def TokenError.message : TokenError → Text
  | timeTooLong =>
    Text.ofString "Exceeds the limit (" ++ Numeral.ofNat Numeral.maxDigits ++
      " digits) for integer string conversion; " ++
      "use sys.set_int_max_str_digits() to increase the limit"
  | secretUnencodable run => run.message

namespace Token

def claims (subject : Text) (issuedAt lifetime : Int) : Json :=
  .obj [Json.member "sub" (.str subject), Json.member "iat" (.int issuedAt),
    Json.member "exp" (.int (issuedAt + lifetime))]

def payload (subject : Text) (issuedAt lifetime : Int) : Text :=
  Base64Url.encode ((claims subject issuedAt lifetime).compact.flatMap CodePoint.utf8)

def sign (secret signed : Text) : Except Utf8.Unencodable Text := do
  let key ← Utf8.encode secret
  let message ← Utf8.encode signed
  return Base64Url.encode (Sha256.authenticate key message)

/-- A token for a subject, valid from a time on for a number of seconds. -/
def issue (subject secret : Text) (lifetime issuedAt : Int) : Except TokenError Text :=
  if Numeral.writable issuedAt && Numeral.writable (issuedAt + lifetime) then
    let payload := payload subject issuedAt lifetime
    match sign secret payload with
    | .ok signature => .ok (payload ++ CodePoint.ofChar '.' :: signature)
    | .error run => .error (.secretUnencodable run)
  else .error .timeTooLong

end Token

end SnippetReview
