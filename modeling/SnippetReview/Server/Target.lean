import SnippetReview.Json.Reader
import SnippetReview.Text.Utf8
import SnippetReview.Text.Word

/-!
The target of a request: scheme, authority, path and query, and percent escapes in a path.
-/

set_option autoImplicit false

namespace SnippetReview

/-- The parts of a target; its fragment is dropped. -/
structure Target where
  scheme : Text
  authority : Text
  path : Text
  query : Text
deriving DecidableEq

namespace Target

def inScheme (c : CodePoint) : Bool :=
  c.isAsciiAlphanumeric || c = '+' || c = '-' || c = '.'

def splitScheme (target : Text) : Option Text × Text :=
  match target.span (· ≠ CodePoint.ofChar ':') with
  | (name, _ :: rest) =>
    if name.head?.any CodePoint.isAsciiLetter && name.all inScheme then (some name, rest)
    else (none, target)
  | _ => (none, target)

def splitAuthority (target : Text) : Option Text × Text :=
  if target.startsWithAny ["//"] then
    let rest := target.drop 2
    let authority := rest.takeWhile fun c : CodePoint => c ≠ '/' && c ≠ '?' && c ≠ '#'
    (if authority.isEmpty then none else some authority, rest.drop authority.length)
  else (none, target)

/-- The parts of a target. Without a scheme and an authority it is a path on the local host. -/
def split (target : Text) : Target :=
  let (scheme, rest) := splitScheme target
  let (authority, rest) := splitAuthority rest
  let rest := rest.takeWhile (· ≠ CodePoint.ofChar '#')
  let path := rest.takeWhile (· ≠ CodePoint.ofChar '?')
  ⟨scheme.getD "http", authority.getD "localhost", path, rest.drop (path.length + 1)⟩

/-- The bytes of a path. A percent sign and two hexadecimal digits are one byte. -/
def percentBytes : Text → Bytes
  | [] => []
  | c :: high :: low :: rest =>
    if c = '%' then
      match Json.hexDigit? high, Json.hexDigit? low with
      | some high, some low => (high * 16 + low).toUInt8 :: percentBytes rest
      | _, _ => c.utf8 ++ percentBytes (high :: low :: rest)
    else c.utf8 ++ percentBytes (high :: low :: rest)
  | c :: rest => c.utf8 ++ percentBytes rest

/-- The path as text, its escapes read and with one slash in front. -/
def decodedPath (target : Target) : Text :=
  CodePoint.ofChar '/' ::
    (Utf8.decodeReplacing (percentBytes target.path)).dropWhile (· = CodePoint.ofChar '/')

def mergeSlashes : Text → Text
  | [] => []
  | [c] => [c]
  | c :: d :: rest =>
    if c = '/' && d = '/' then c :: mergeSlashes rest else c :: mergeSlashes (d :: rest)

def isPlain (c : CodePoint) : Bool :=
  c.isAsciiAlphanumeric || (Text.ofString "_.-~!$&'()*+,/:;=@").contains c

def upperHexDigit (n : Nat) : CodePoint :=
  CodePoint.ofChar (Nat.digitChar n).toUpper

def encodePath (path : Text) : Text :=
  path.flatMap fun c =>
    if isPlain c then [c]
    else c.utf8.flatMap fun byte =>
      [CodePoint.ofChar '%', upperHexDigit (byte.toNat / 16), upperHexDigit (byte.toNat % 16)]

def address (target : Target) (path : Text) : Text :=
  target.scheme ++ "://" ++ target.authority ++ encodePath path ++
    (if target.query.isEmpty then [] else CodePoint.ofChar '?' :: target.query)

end Target

end SnippetReview
