import SnippetReview.Text.DigitTable

/-!
Decimal digits of every script and the numbers they stand for.
-/

set_option autoImplicit false

namespace SnippetReview.CodePoint

def isAsciiDigit (c : CodePoint) : Bool :=
  0x30 ≤ c.value && c.value ≤ 0x39

/-- The number from zero to nine that a decimal digit of any script stands for. -/
def digit? (c : CodePoint) : Option Nat :=
  if c.isAsciiDigit then some (c.value - 0x30)
  else
    (decimalDigitRanges.find? fun range => range.1 ≤ c.value && c.value ≤ range.2).map
      fun range => (c.value - range.1) % 10

def isDigit (c : CodePoint) : Bool :=
  c.digit?.isSome

end SnippetReview.CodePoint
