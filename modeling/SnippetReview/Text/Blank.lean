import SnippetReview.Text.Basic

/-!
Blank code points, and trimming them off the ends of a text.

Blank is what separates words or lines in any script, and the four ASCII information separators.
The zero-width space, the word joiner and the byte order mark are not blank.
-/

set_option autoImplicit false

namespace SnippetReview

def blankRanges : Ranges := [
  (0x9, 0xD), (0x1C, 0x20), (0x85, 0x85), (0xA0, 0xA0), (0x1680, 0x1680), (0x2000, 0x200A),
  (0x2028, 0x2029), (0x202F, 0x202F), (0x205F, 0x205F), (0x3000, 0x3000)]

def CodePoint.isBlank (c : CodePoint) : Bool :=
  blankRanges.contain c.value

namespace Text

def trimLeft (text : Text) : Text :=
  text.dropWhile CodePoint.isBlank

def trimRight (text : Text) : Text :=
  (text.reverse.dropWhile CodePoint.isBlank).reverse

def trim (text : Text) : Text :=
  text.trimLeft.trimRight

def isBlank (text : Text) : Bool :=
  text.all CodePoint.isBlank

end Text

end SnippetReview
