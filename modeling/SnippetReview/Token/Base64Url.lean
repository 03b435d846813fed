import SnippetReview.Text.Utf8

/-!
Bytes as text over the sixty-four letters, digits, hyphen and underscore, without padding: three
bytes become four characters, one or two remaining bytes become two or three.
-/

set_option autoImplicit false

namespace SnippetReview.Base64Url

/-- The characters in the order of the six bits they stand for. -/
def alphabet : Text := "ABCDEFGHIJKLMNOPQRSTUVWXYZabcdefghijklmnopqrstuvwxyz0123456789-_"

def character (bits : Nat) : CodePoint :=
  alphabet.getD (bits % 64) CodePoint.replacement

def encode : Bytes → Text
  | [] => []
  | [a] => [character (a.toNat / 4), character (a.toNat * 16)]
  | [a, b] =>
    [character (a.toNat / 4), character (a.toNat * 16 + b.toNat / 16), character (b.toNat * 4)]
  | a :: b :: c :: rest =>
    character (a.toNat / 4) :: character (a.toNat * 16 + b.toNat / 16) ::
      character (b.toNat * 4 + c.toNat / 64) :: character c.toNat :: encode rest

def bits? (c : CodePoint) : Option Nat :=
  let index := alphabet.idxOf c
  if index < 64 then some index else none

/-- The byte from the low bits of one character and the high bits of the next. -/
def joinBits (high low : Nat) : UInt8 :=
  (high + low).toUInt8

/-- The bytes of a text; bits beyond the last whole byte are dropped. -/
def decode? : Text → Option Bytes
  | [] => some []
  | [_] => none
  | [p, q] => do
    let a ← bits? p
    let b ← bits? q
    return [joinBits (a * 4) (b / 16)]
  | [p, q, r] => do
    let a ← bits? p
    let b ← bits? q
    let c ← bits? r
    return [joinBits (a * 4) (b / 16), joinBits (b * 16) (c / 4)]
  | p :: q :: r :: s :: rest => do
    let a ← bits? p
    let b ← bits? q
    let c ← bits? r
    let d ← bits? s
    let more ← decode? rest
    return joinBits (a * 4) (b / 16) :: joinBits (b * 16) (c / 4) :: joinBits (c * 64) d :: more

end SnippetReview.Base64Url
