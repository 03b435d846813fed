import SnippetReview.Json.Basic
import SnippetReview.Text.Numeral

/-!
JSON as ASCII text without spaces.
-/

set_option autoImplicit false

namespace SnippetReview.Json

def escapeUnit (unit : Nat) : Text :=
  CodePoint.ofChar '\\' :: CodePoint.ofChar 'u' :: Numeral.hex 4 unit

/-- A code point inside a string. Only ASCII from the space to the tilde stands for itself; above
U+FFFF two units are written, the high surrogate first. -/
def escape (c : CodePoint) : Text :=
  if c = '"' then "\\\""
  else if c = '\\' then "\\\\"
  else if c = '\n' then "\\n"
  else if c = '\r' then "\\r"
  else if c = '\t' then "\\t"
  else if c = '\x08' then "\\b"
  else if c = '\x0c' then "\\f"
  else if 0x20 ≤ c.value ∧ c.value ≤ 0x7E then [c]
  else if c.value < 0x10000 then escapeUnit c.value
  else
    escapeUnit (0xD800 + (c.value - 0x10000) / 0x400) ++
      escapeUnit (0xDC00 + (c.value - 0x10000) % 0x400)

def quote (text : Text) : Text :=
  CodePoint.ofChar '"' :: text.flatMap escape ++ [CodePoint.ofChar '"']

mutual

def compact : Json → Text
  | null => "null"
  | bool true => "true"
  | bool false => "false"
  | int value => Numeral.ofInt value
  | real written => written
  | str value => quote value
  | arr items => CodePoint.ofChar '[' :: compactItems items ++ [CodePoint.ofChar ']']
  | obj members => CodePoint.ofChar '\x7b' :: compactMembers members ++ [CodePoint.ofChar '\x7d']

def compactItems : List Json → Text
  | [] => []
  | [item] => compact item
  | item :: next :: rest => compact item ++ CodePoint.ofChar ',' :: compactItems (next :: rest)

def compactMembers : List (Text × Json) → Text
  | [] => []
  | [(name, value)] => quote name ++ CodePoint.ofChar ':' :: compact value
  | (name, value) :: next :: rest =>
    quote name ++ CodePoint.ofChar ':' :: compact value ++
      CodePoint.ofChar ',' :: compactMembers (next :: rest)

end

end SnippetReview.Json
