import SnippetReview.Text.Blank
import SnippetReview.Text.Digit

/-!
Whole numbers written and read: decimal numerals, and hexadecimal ones of a fixed width. Decimal
numerals of more than `Numeral.maxDigits` digits are not read, nor should they be written.
-/

set_option autoImplicit false

namespace SnippetReview.Numeral

/-- The most digits a number may have when it is written or read. -/
def maxDigits : Nat := 4300

def ofNat (n : Nat) : Text :=
  (Nat.toDigits 10 n).map CodePoint.ofChar

def ofInt : Int → Text
  | .ofNat n => ofNat n
  | .negSucc n => CodePoint.ofChar '-' :: ofNat (n + 1)

def writable (n : Int) : Bool :=
  (ofNat n.natAbs).length ≤ maxDigits

/-- The last `width` hexadecimal digits of a natural number, in lower case. -/
def hex : Nat → Nat → Text
  | 0, _ => []
  | width + 1, n => hex width (n / 16) ++ [CodePoint.ofChar (Nat.digitChar (n % 16))]

/-- The number with these digits, the most significant first. -/
def ofDigits (digits : List Nat) : Nat :=
  digits.foldl (fun value digit => 10 * value + digit) 0

/-- The digits of an unsigned numeral. A single underscore may stand between two digits. -/
def digits? : Text → Option (List Nat)
  | [] => none
  | [c] => c.digit?.map ([·])
  | c :: d :: rest => do
    let digit ← c.digit?
    let more ← if d = '_' then digits? rest else digits? (d :: rest)
    return digit :: more

/-- An unsigned numeral of at most `maxDigits` digits. -/
def nat? (text : Text) : Option Nat := do
  let digits ← digits? text
  if digits.length ≤ maxDigits then some (ofDigits digits) else none

def signed? : Text → Option Int
  | [] => none
  | c :: rest =>
    if c = '-' then (nat? rest).map fun n => -(n : Int)
    else if c = '+' then (nat? rest).map fun n => (n : Int)
    else (nat? (c :: rest)).map fun n => (n : Int)

/-- The blanks that may surround a numeral: the information separators may not. -/
def isPadding (c : CodePoint) : Bool :=
  c.isBlank && !(0x1C ≤ c.value && c.value ≤ 0x1F)

def int? (text : Text) : Option Int :=
  signed? ((text.dropWhile isPadding).reverse.dropWhile isPadding).reverse

end SnippetReview.Numeral
