import SnippetReview.Json.Basic
import SnippetReview.Text.Numeral

/-!
Reading JSON text.

The grammar is the standard one with three more numbers, `NaN`, `Infinity` and `-Infinity`. Control
characters do not stand in strings, and an integer of more digits than a numeral may have makes the
whole text unreadable.

The reader goes one level deeper for each value inside another one. It gives up where the levels run
out, also if they run out when it has to say what is wrong.
-/

set_option autoImplicit false

namespace SnippetReview.Json

def isSpace (c : CodePoint) : Bool :=
  c = ' ' || c = '\t' || c = '\n' || c = '\r'

def skipSpace (text : Text) : Text :=
  text.dropWhile isSpace

def hexDigit? (c : CodePoint) : Option Nat :=
  if 0x30 ≤ c.value ∧ c.value ≤ 0x39 then some (c.value - 0x30)
  else if 0x41 ≤ c.value ∧ c.value ≤ 0x46 then some (c.value - 0x41 + 10)
  else if 0x61 ≤ c.value ∧ c.value ≤ 0x66 then some (c.value - 0x61 + 10)
  else none

def unit? (a b c d : CodePoint) : Option Nat := do
  return (((← hexDigit? a) * 16 + (← hexDigit? b)) * 16 + (← hexDigit? c)) * 16 + (← hexDigit? d)

def shortEscape? (c : CodePoint) : Option CodePoint :=
  if c = '"' || c = '\\' || c = '/' then some c
  else if c = 'b' then some '\x08'
  else if c = 'f' then some '\x0c'
  else if c = 'n' then some '\n'
  else if c = 'r' then some '\r'
  else if c = 't' then some '\t'
  else none

inductive Piece where
  | plain (c : CodePoint)
  | unit (n : Nat)

def pieces? : Text → Option (List Piece × Text)
  | [] => none
  | c :: rest =>
    if c = '"' then some ([], rest)
    else if c = '\\' then match rest with
      | [] => none
      | kind :: rest =>
        if kind = 'u' then match rest with
          | a :: b :: c :: d :: rest => do
            let n ← unit? a b c d
            let (more, rest) ← pieces? rest
            return (.unit n :: more, rest)
          | _ => none
        else do
          let c ← shortEscape? kind
          let (more, rest) ← pieces? rest
          return (.plain c :: more, rest)
    else if c.value < 0x20 then none
    else do
      let (more, rest) ← pieces? rest
      return (.plain c :: more, rest)

def surrogatePair? (high low : Nat) : Option CodePoint :=
  if 0xD800 ≤ high ∧ high ≤ 0xDBFF ∧ 0xDC00 ≤ low ∧ low ≤ 0xDFFF then
    CodePoint.ofNat? (0x10000 + (high - 0xD800) * 0x400 + (low - 0xDC00))
  else none

/-- The text of the pieces: two escaped surrogates that fit are one code point, any other unit is a
code point by itself. -/
def textOfPieces : List Piece → Text
  | [] => []
  | .plain c :: rest => c :: textOfPieces rest
  | [.unit n] => (CodePoint.ofNat? n).toList
  | .unit n :: .plain c :: rest => (CodePoint.ofNat? n).toList ++ c :: textOfPieces rest
  | .unit high :: .unit low :: rest =>
    match surrogatePair? high low with
    | some c => c :: textOfPieces rest
    | none => (CodePoint.ofNat? high).toList ++ textOfPieces (.unit low :: rest)

def string? (text : Text) : Option (Text × Text) :=
  (pieces? text).map fun (pieces, rest) => (textOfPieces pieces, rest)

def spanDigits (text : Text) : Text × Text :=
  text.span CodePoint.isAsciiDigit

def fraction (text : Text) : Text :=
  match text with
  | [] => []
  | c :: rest =>
    if c = '.' then match (spanDigits rest).1 with
      | [] => []
      | digits => c :: digits
    else []

def exponent (text : Text) : Text :=
  match text with
  | [] => []
  | e :: rest =>
    if e = 'e' || e = 'E' then
      let sign : Text := rest.take 1 |>.filter fun c : CodePoint => c = '+' || c = '-'
      match (spanDigits (rest.drop sign.length)).1 with
      | [] => []
      | digits => e :: sign ++ digits
    else []

def magnitude? (text : Text) : Option (Text × Text × Text) :=
  match (spanDigits text).1 with
  | [] => none
  | first :: more =>
    let whole := if first = '0' then [first] else first :: more
    let tail := text.drop whole.length
    let fraction := fraction tail
    some (whole, fraction, exponent (tail.drop fraction.length))

def number? (text : Text) : Option (Json × Text) := do
  let sign : Text := text.take 1 |>.filter (· = CodePoint.ofChar '-')
  let (whole, fraction, exponent) ← magnitude? (text.drop sign.length)
  let written := sign ++ whole ++ fraction ++ exponent
  let value ← if fraction.isEmpty && exponent.isEmpty then (Numeral.signed? written).map int
    else some (real written)
  return (value, text.drop written.length)

def words : List (Text × Json) := [
  ("null", null), ("true", bool true), ("false", bool false),
  ("NaN", real "NaN"), ("Infinity", real "Infinity"), ("-Infinity", real "-Infinity")]

def scalar? (text : Text) : Option (Json × Text) :=
  match words.find? fun word => word.1.isPrefixOf text with
  | some (word, value) => some (value, text.drop word.length)
  | none => number? text

/-- Why a text is not read: it is not JSON, or its values are nested too deeply. -/
inductive ReadError where
  | malformed
  | tooDeep
deriving DecidableEq

/-- The levels of nesting that it takes to say what is wrong with a text. -/
def complaintLevels : Nat := 3

/-- What becomes of something wrong that is found with so many levels left. -/
def complain (levels : Nat) : ReadError :=
  if levels < complaintLevels then .tooDeep else .malformed

def deeper {α : Type} (levels : Nat) (hold : α → Json)
    (inside : Nat → Except ReadError (α × Text)) : Except ReadError (Json × Text) :=
  match levels with
  | 0 => .error .tooDeep
  | levels + 1 => (inside levels).map fun (held, rest) => (hold held, rest)

def readScalar (levels : Nat) (text : Text) : Except ReadError (Json × Text) :=
  match scalar? text with
  | none => .error .malformed
  | some (value, rest) => if value.levels ≤ levels then .ok (value, rest) else .error .tooDeep

def readName (levels : Nat) (text : Text) : Except ReadError (Text × Text) :=
  match text with
  | [] => .error (complain levels)
  | c :: rest =>
    if c = '"' then
      match string? rest with
      | none => .error (complain levels)
      | some (name, rest) =>
        match skipSpace rest with
        | [] => .error (complain levels)
        | c :: rest => if c = ':' then .ok (name, skipSpace rest) else .error (complain levels)
    else .error (complain levels)

/-- An item or a member with those that follow it, up to the bracket that closes the value. -/
def readMore {α : Type} (levels : Nat) (closing : CodePoint)
    (more : Text → Except ReadError (List α × Text)) (first : α) (text : Text) :
    Except ReadError (List α × Text) :=
  match skipSpace text with
  | [] => .error (complain levels)
  | c :: rest =>
    if c = closing then .ok ([first], rest)
    else if c = ',' then (more (skipSpace rest)).map fun (others, rest) => (first :: others, rest)
    else .error (complain levels)

mutual

/-- A value at the front of a text. Where a value should begin and none does, this is told from
outside; anything else that is wrong is told on the spot. -/
def readValue : Nat → Nat → Text → Except ReadError (Json × Text)
  | 0, _, _ => .error .malformed
  | fuel + 1, levels, text =>
    match text with
    | [] => .error .malformed
    | c :: rest =>
      if c = '"' then
        match string? rest with
        | none => .error (complain levels)
        | some (value, rest) => .ok (str value, rest)
      else if c = '[' then
        deeper levels arr fun levels =>
          match skipSpace rest with
          | [] => .error .malformed
          | d :: after => if d = ']' then .ok ([], after) else readItems fuel levels (d :: after)
      else if c = '\x7b' then
        deeper levels obj fun levels =>
          match skipSpace rest with
          | [] => .error (complain levels)
          | d :: after =>
            if d = '\x7d' then .ok ([], after) else readMembers fuel levels (d :: after)
      else readScalar levels text

def readItems : Nat → Nat → Text → Except ReadError (List Json × Text)
  | 0, _, _ => .error .malformed
  | fuel + 1, levels, text => do
    let (item, rest) ← readValue fuel levels text
    readMore levels ']' (readItems fuel levels) item rest

def readMembers : Nat → Nat → Text → Except ReadError (List (Text × Json) × Text)
  | 0, _, _ => .error .malformed
  | fuel + 1, levels, text => do
    let (name, rest) ← readName levels text
    let (value, rest) ← readValue fuel levels rest
    readMore levels '\x7d' (readMembers fuel levels) (name, value) rest

end

/-- The value a text stands for, with nothing but space around it. The limit is on the nesting at
whose bottom it can still be said what is wrong. A nested value starts at least one code point after
the one that holds it, which bounds the recursion. -/
def read (limit : Nat) (text : Text) : Except ReadError Json := do
  let (value, rest) ←
    readValue (2 * text.length + 2) (limit + complaintLevels) (skipSpace text)
  if (skipSpace rest).isEmpty then .ok value else .error .malformed

def read? (text : Text) : Option Json :=
  (read text.length text).toOption

end SnippetReview.Json
