import SnippetReview.Json.Reader
import SnippetReview.Text.Utf8

/-!
JSON text that arrives as bytes. A byte order mark says how the bytes are to be read; without one
the zero bytes among the first four do, since JSON starts with an ASCII character.
-/

set_option autoImplicit false

namespace SnippetReview

inductive Encoding where
  | utf8
  | utf16 (bigEndian : Bool)
  | utf32 (bigEndian : Bool)
deriving DecidableEq

namespace Encoding

def marks : List (Bytes × Encoding) := [
  ([0x00, 0x00, 0xFE, 0xFF], utf32 true), ([0xFF, 0xFE, 0x00, 0x00], utf32 false),
  ([0xFE, 0xFF], utf16 true), ([0xFF, 0xFE], utf16 false), ([0xEF, 0xBB, 0xBF], utf8)]

/-- The encoding that the zero bytes point to. -/
def ofZeros : Bytes → Encoding
  | 0 :: 0 :: _ :: _ :: _ => utf32 true
  | 0 :: _ :: _ :: _ :: _ => utf16 true
  | _ :: 0 :: 0 :: 0 :: _ => utf32 false
  | _ :: 0 :: _ :: _ :: _ => utf16 false
  | [0, _] => utf16 true
  | [_, 0] => utf16 false
  | _ => utf8

/-- The encoding of JSON text, and the bytes without the mark. -/
def detect (bytes : Bytes) : Encoding × Bytes :=
  match marks.find? fun mark => mark.1.isPrefixOf bytes with
  | some (mark, encoding) => (encoding, bytes.drop mark.length)
  | none => (ofZeros bytes, bytes)

def pair (bigEndian : Bool) (a b : UInt8) : Nat :=
  if bigEndian then a.toNat * 0x100 + b.toNat else b.toNat * 0x100 + a.toNat

def units16? (bigEndian : Bool) : Bytes → Option (List Json.Piece)
  | [] => some []
  | [_] => none
  | a :: b :: rest => (units16? bigEndian rest).map (.unit (pair bigEndian a b) :: ·)

def decode32? (bigEndian : Bool) : Bytes → Option Text
  | [] => some []
  | a :: b :: c :: d :: rest => do
    let first := pair bigEndian a b
    let second := pair bigEndian c d
    let value ← CodePoint.ofNat?
      (if bigEndian then first * 0x10000 + second else second * 0x10000 + first)
    (decode32? bigEndian rest).map (value :: ·)
  | _ => none

/-- The text of some bytes. Surrogates without a partner are read as they are. -/
def decode? : Encoding → Bytes → Option Text
  | utf8, bytes => Utf8.decode? bytes
  | utf16 bigEndian, bytes => (units16? bigEndian bytes).map Json.textOfPieces
  | utf32 bigEndian, bytes => decode32? bigEndian bytes

end Encoding

/-- The JSON value that some bytes stand for, read with a limit on the nesting. -/
def Json.ofBytes (limit : Nat) (bytes : Bytes) : Except ReadError Json :=
  let (encoding, bytes) := Encoding.detect bytes
  match encoding.decode? bytes with
  | none => .error .malformed
  | some text => read limit text

def Json.ofBytes? (bytes : Bytes) : Option Json :=
  let (encoding, bytes) := Encoding.detect bytes
  (encoding.decode? bytes).bind Json.read?

end SnippetReview
