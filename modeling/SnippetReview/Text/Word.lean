import SnippetReview.Text.WordTable

/-!
Word characters: what words of a program or of a message are made of.
-/

set_option autoImplicit false

namespace SnippetReview.CodePoint

def isAsciiLetter (c : CodePoint) : Bool :=
  (0x41 ≤ c.value && c.value ≤ 0x5A) || (0x61 ≤ c.value && c.value ≤ 0x7A)

def isAsciiAlphanumeric (c : CodePoint) : Bool :=
  c.isAsciiLetter || (0x30 ≤ c.value && c.value ≤ 0x39)

/-- Whether a code point is a letter, a digit or a numeric character of some script. -/
def isAlphanumeric (c : CodePoint) : Bool :=
  c.isAsciiAlphanumeric || alphanumericRanges.contain c.value

/-- A word character is alphanumeric or the underscore. -/
def isWord (c : CodePoint) : Bool :=
  c.isAlphanumeric || c.value == 0x5F

end SnippetReview.CodePoint
