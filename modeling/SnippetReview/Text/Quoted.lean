import SnippetReview.Text.Numeral
import SnippetReview.Text.PrintableTable

/-!
A text in quotes, as it appears in messages and log lines: on one line, made of printable code
points only, and never the same for two texts.
-/

set_option autoImplicit false

namespace SnippetReview

def CodePoint.isPrintable (c : CodePoint) : Bool :=
  if c.value < 0x80 then 0x20 ≤ c.value && c.value ≤ 0x7E else printableRanges.contain c.value

namespace Quoted

/-- The shortest of the three escapes by number: two, four or eight digits. -/
def numericEscape (n : Nat) : Text :=
  if n < 0x100 then CodePoint.ofChar '\\' :: CodePoint.ofChar 'x' :: Numeral.hex 2 n
  else if n < 0x10000 then CodePoint.ofChar '\\' :: CodePoint.ofChar 'u' :: Numeral.hex 4 n
  else CodePoint.ofChar '\\' :: CodePoint.ofChar 'U' :: Numeral.hex 8 n

/-- One code point inside the given quotes. -/
def escape (quote c : CodePoint) : Text :=
  if c = quote || c = '\\' then ['\\', c]
  else if c = '\n' then "\\n"
  else if c = '\r' then "\\r"
  else if c = '\t' then "\\t"
  else if c.isPrintable then [c]
  else numericEscape c.value

/-- Double quotes only for a text that has single quotes and no double ones. -/
def quoteFor (text : Text) : CodePoint :=
  if CodePoint.ofChar '\'' ∈ text ∧ CodePoint.ofChar '"' ∉ text then '"' else '\''

/-- The text between its quotes. -/
def encode (text : Text) : Text :=
  let quote := quoteFor text
  quote :: text.flatMap (escape quote) ++ [quote]

end Quoted

end SnippetReview
