import SnippetReview.Text.Numeral

/-!
UTF-8: writing text as bytes, and two ways of reading bytes as text.

A lone surrogate has no bytes. Reading either replaces each maximal invalid part by U+FFFD or
fails; the failing reader takes three-byte surrogates as they are.
-/

set_option autoImplicit false

namespace SnippetReview

abbrev Bytes := List UInt8

def CodePoint.utf8 (c : CodePoint) : Bytes :=
  let n := c.value
  if n < 0x80 then [n.toUInt8]
  else if n < 0x800 then [(0xC0 + n / 0x40).toUInt8, (0x80 + n % 0x40).toUInt8]
  else if n < 0x10000 then
    [(0xE0 + n / 0x1000).toUInt8, (0x80 + n / 0x40 % 0x40).toUInt8, (0x80 + n % 0x40).toUInt8]
  else
    [(0xF0 + n / 0x40000).toUInt8, (0x80 + n / 0x1000 % 0x40).toUInt8,
      (0x80 + n / 0x40 % 0x40).toUInt8, (0x80 + n % 0x40).toUInt8]

namespace Utf8

/-- Text that has no bytes: its first run of surrogates, and where the run stands. -/
structure Unencodable where
  first : CodePoint
  position : Nat
  count : Nat
deriving DecidableEq

/-- Says which code points have no bytes. -/
def Unencodable.message (run : Unencodable) : Text :=
  Text.ofString "'utf-8' codec can't encode character" ++
    (if run.count = 1 then
      Text.ofString " '\\u" ++ Numeral.hex 4 run.first.value ++ "' in position " ++
        Numeral.ofNat run.position
    else
      Text.ofString "s in position " ++ Numeral.ofNat run.position ++ "-" ++
        Numeral.ofNat (run.position + run.count - 1)) ++
    ": surrogates not allowed"

def firstSurrogate? : Nat → Text → Option Unencodable
  | _, [] => none
  | position, c :: rest =>
    if c.isSurrogate then some ⟨c, position, (rest.takeWhile CodePoint.isSurrogate).length + 1⟩
    else firstSurrogate? (position + 1) rest

/-- The bytes of a text without surrogates. -/
def encode (text : Text) : Except Unencodable Bytes :=
  match firstSurrogate? 0 text with
  | some run => .error run
  | none => .ok (text.flatMap CodePoint.utf8)

/-- What the first byte of a longer sequence fixes: its own bits, the range of the second byte, and
how many more bytes follow that one. -/
structure Lead where
  bits : Nat
  low : Nat
  high : Nat
  more : Nat

/-- The longer sequences. No overlong form has a lead and range, nor has anything above U+10FFFF;
three-byte surrogates have one if they are asked for. -/
def lead? (surrogates : Bool) (byte : Nat) : Option Lead :=
  if 0xC2 ≤ byte ∧ byte ≤ 0xDF then some ⟨byte - 0xC0, 0x80, 0xBF, 0⟩
  else if byte = 0xE0 then some ⟨0, 0xA0, 0xBF, 1⟩
  else if byte = 0xED then some ⟨0xD, 0x80, if surrogates then 0xBF else 0x9F, 1⟩
  else if 0xE1 ≤ byte ∧ byte ≤ 0xEF then some ⟨byte - 0xE0, 0x80, 0xBF, 1⟩
  else if byte = 0xF0 then some ⟨0, 0x90, 0xBF, 2⟩
  else if 0xF1 ≤ byte ∧ byte ≤ 0xF3 then some ⟨byte - 0xF0, 0x80, 0xBF, 2⟩
  else if byte = 0xF4 then some ⟨4, 0x80, 0x8F, 2⟩
  else none

/-- Reads continuation bytes onto the bits so far: the next one within the given range, `more` after
it. Stops before the first byte that does not fit. -/
def continuation (bits low high : Nat) : Nat → Bytes → Option Nat × Bytes
  | _, [] => (none, [])
  | more, byte :: rest =>
    if low ≤ byte.toNat ∧ byte.toNat ≤ high then
      let bits := bits * 0x40 + (byte.toNat - 0x80)
      match more with
      | 0 => (some bits, rest)
      | more + 1 => continuation bits 0x80 0xBF more rest
    else (none, byte :: rest)

/-- The code point at the front of some bytes, or nothing for a maximal invalid part, and the bytes
after it. -/
def next (surrogates : Bool) (byte : UInt8) (rest : Bytes) : Option CodePoint × Bytes :=
  if byte < 0x80 then (CodePoint.ofNat? byte.toNat, rest)
  else match lead? surrogates byte.toNat with
    | none => (none, rest)
    | some lead =>
      let (value, rest) := continuation lead.bits lead.low lead.high lead.more rest
      (value.bind CodePoint.ofNat?, rest)

/-- Continuation bytes are only ever taken off. -/
private theorem length_continuation_le (bits low high more : Nat) (bytes : Bytes) :
    (continuation bits low high more bytes).2.length ≤ bytes.length := by
  fun_induction continuation bits low high more bytes with
  | case1 => exact Nat.le_refl _
  | case2 => exact Nat.le_succ _
  | case3 _ _ _ _ _ _ _ _ ih => exact Nat.le_succ_of_le ih
  | case4 => exact Nat.le_refl _

/-- A step leaves no more bytes than stood after the first one. -/
private theorem length_next_le (surrogates : Bool) (byte : UInt8) (rest : Bytes) :
    (next surrogates byte rest).2.length ≤ rest.length := by
  unfold next
  split
  · exact Nat.le_refl _
  · split
    · exact Nat.le_refl _
    · exact length_continuation_le ..

/-- The text of any bytes, with U+FFFD for each maximal invalid part. -/
def decodeReplacing : Bytes → Text
  | [] => []
  | byte :: rest =>
    let step := next false byte rest
    step.1.getD CodePoint.replacement :: decodeReplacing step.2
termination_by bytes => bytes.length
decreasing_by exact Nat.lt_succ_of_le (length_next_le ..)

/-- The text of valid bytes, surrogates included. -/
def decode? : Bytes → Option Text
  | [] => some []
  | byte :: rest =>
    let step := next true byte rest
    match step.1 with
    | none => none
    | some c => (decode? step.2).map (c :: ·)
termination_by bytes => bytes.length
decreasing_by exact Nat.lt_succ_of_le (length_next_le ..)

end Utf8

end SnippetReview
