/-!
Text as a list of code points, and the operations on it that look at no character property.

A code point may be a lone surrogate: such text arises from escapes in request bodies, can be
compared, counted and cut like any other, and only fails when bytes are asked for.
-/

set_option autoImplicit false

namespace SnippetReview

/-- A code point: a number below `0x110000`, surrogates included. -/
structure CodePoint where
  value : Nat
  inRange : value < 0x110000
deriving DecidableEq

/-- Text is a list of code points; lengths and columns count them. -/
abbrev Text := List CodePoint

namespace CodePoint

def ofChar (c : Char) : CodePoint where
  value := c.toNat
  inRange := by
    rcases c.valid with low | ⟨_, high⟩
    · exact Nat.lt_trans low (by decide)
    · exact high

instance : Coe Char CodePoint := ⟨ofChar⟩

def ofNat? (n : Nat) : Option CodePoint :=
  if bound : n < 0x110000 then some ⟨n, bound⟩ else none

def replacement : CodePoint := ⟨0xFFFD, by decide⟩

/-- A surrogate is half of a pair of sixteen-bit units and no character by itself. -/
def isSurrogate (c : CodePoint) : Bool :=
  0xD800 ≤ c.value && c.value ≤ 0xDFFF

/-- The character of a code point; a lone surrogate becomes the replacement character. -/
def toChar (c : CodePoint) : Char :=
  if valid : c.value.isValidChar then Char.ofNatAux c.value valid else '\uFFFD'

end CodePoint

/-- Closed ranges of numbers, such as the code points that share a property. -/
abbrev Ranges := List (Nat × Nat)

def Ranges.contain (ranges : Ranges) (n : Nat) : Bool :=
  ranges.any fun range => range.1 ≤ n && n ≤ range.2

namespace Text

def ofString (literal : String) : Text :=
  literal.toList.map CodePoint.ofChar

instance : Coe String Text := ⟨ofString⟩

/-- The pieces between the separators; there is always at least one. -/
def splitOn (separator : CodePoint) : Text → List Text
  | [] => [[]]
  | c :: rest =>
    if c = separator then [] :: splitOn separator rest
    else match splitOn separator rest with
      | [] => [[c]]
      | piece :: pieces => (c :: piece) :: pieces

/-- The lines of a text; only a line feed ends one. -/
def lines (text : Text) : List Text :=
  text.splitOn '\n'

def occursIn (needle : Text) : Text → Bool
  | [] => needle.isEmpty
  | c :: rest => needle.isPrefixOf (c :: rest) || occursIn needle rest

def startsWithAny (words : List Text) (text : Text) : Bool :=
  words.any (·.isPrefixOf text)

def endsWithAny (words : List Text) (text : Text) : Bool :=
  words.any (·.isSuffixOf text)

def join (separator : Text) (pieces : List Text) : Text :=
  separator.intercalate pieces

def le : Text → Text → Bool
  | [], _ => true
  | _ :: _, [] => false
  | a :: s, b :: t => if a = b then le s t else a.value < b.value

end Text

end SnippetReview
