import SnippetReview.Text.CaseTable

/-!
Full case mapping of texts. Mapping can change the length: one code point may become several.

Only the capital sigma looks at its neighbours: at the end of a word its lower case is the final
sigma. A word ends there if, passing over ignorable code points, something with case stands before
it and nothing with case after it.
-/

set_option autoImplicit false

namespace SnippetReview

def CaseRun.find? (runs : List CaseRun) (n : Nat) : Option Nat :=
  (runs.find? fun run => run.first ≤ n && n ≤ run.last && (n - run.first) % run.stride == 0).map
    fun run => (Int.ofNat n + run.shift).toNat

/-- One code point mapped by a table of single counterparts and a table of expansions. -/
def CodePoint.mapCase (runs : List CaseRun) (expansions : List (Nat × List Nat)) (c : CodePoint) :
    Text :=
  match expansions.lookup c.value with
  | some values => values.filterMap CodePoint.ofNat?
  | none => match (CaseRun.find? runs c.value).bind CodePoint.ofNat? with
    | some counterpart => [counterpart]
    | none => [c]

namespace CodePoint

def lower (c : CodePoint) : Text :=
  if c.value < 0x80 then
    if 0x41 ≤ c.value && c.value ≤ 0x5A then (ofNat? (c.value + 0x20)).toList else [c]
  else c.mapCase lowerRuns lowerExpansions

def upper (c : CodePoint) : Text :=
  if c.value < 0x80 then
    if 0x61 ≤ c.value && c.value ≤ 0x7A then (ofNat? (c.value - 0x20)).toList else [c]
  else c.mapCase upperRuns upperExpansions

def capitalSigma : CodePoint := ⟨0x3A3, by decide⟩

def finalSigma : CodePoint := ⟨0x3C2, by decide⟩

/-- Whether the first code point that counts has case. -/
def casedFirst (neighbours : Text) : Bool :=
  match neighbours.dropWhile fun c => caseIgnorableRanges.contain c.value with
  | [] => false
  | c :: _ => casedRanges.contain c.value

end CodePoint

namespace Text

/-- Lower case of a text whose left neighbours, nearest first, are given. -/
def lowerAfter : Text → Text → Text
  | _, [] => []
  | before, c :: rest =>
    (if c = CodePoint.capitalSigma && CodePoint.casedFirst before && !CodePoint.casedFirst rest
      then [CodePoint.finalSigma] else c.lower) ++ lowerAfter (c :: before) rest

def lower (text : Text) : Text :=
  lowerAfter [] text

def upper (text : Text) : Text :=
  text.flatMap CodePoint.upper

end Text

end SnippetReview
