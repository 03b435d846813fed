import SnippetReview.Script.State

/-!
Goals about arrays and objects. Either can turn out to be a pattern.
-/

set_option autoImplicit false

namespace SnippetReview.Script.Literal

def close (listing : Listing) (s : State) : Step :=
  .ok { s.take.settle .pattern listing.opening with cover := s.heldWith listing.held }

/-- The part of an array or object that was read, which starts at the given place, as part of a
pattern. -/
def part (start : Extent) (s : State) : Step :=
  match s.operand.form with
  | .name => if s.operand.grouped then s.noParameter start else .ok s
  | .member => do
    let s ← s.noParameter start
    let s ← s.asExpression
    return s.clearCover
  | .pattern | .assignment => if s.operand.grouped then s.noTarget start else .ok s
  | _ => s.noTarget start

def elements (listing : Listing) (s : State) : Step :=
  match s.token with
  | .sign "]" => close listing s
  | .sign "," => .ok (s.take.push [.elements listing])
  | .sign "..." => .ok (s.take.push
      [.candidate true, .part s.take.here, .spreadElement s.here, .moreElements listing])
  | _ => .ok (s.push [.candidate true, .part s.here, .moreElements listing])

/-- After items of an array that another one stands for. In a pattern they come last and have no
default. -/
def spreadElement (ellipsis : Extent) (s : State) : Step := do
  let s ← if s.operand.form = .assignment then s.noTarget ellipsis else .ok s
  if s.token = .sign "," then s.noTarget ellipsis else return s

def moreElements (listing : Listing) (s : State) : Step :=
  let listing := { listing with held := s.heldWith listing.held }
  let s := s.clearCover
  match s.token with
  | .sign "]" => close listing s
  | .sign "," => .ok (s.take.push [.elements listing])
  | _ => s.unexpected

def endsName (s : State) : Bool :=
  s.atSign [":", ",", "\x7d", "=", "(", "*", ";"]

def methodTail (start : Extent) (s : State) : Step := do
  let s ← s.noTarget start
  return s.push [.method]

/-- A member of an object that starts with a word: a value for it, a method, the word alone, or the
word as a modifier of a method. -/
def ofWord (name : String) (s : State) : Step :=
  let after := s.take
  let plain : Step := .ok (after.push [.memberTail s.here])
  let asMethod : List Goal := [.propertyName, .methodTail s.here]
  match name with
  | "async" =>
    if after.breaks || (endsName after && !after.atSign ["*"]) then plain
    else .ok ((if after.token = .sign "*" then after.take else after).push asMethod)
  | "get" | "set" => if endsName after then plain else .ok (after.push asMethod)
  | _ => plain

def members (listing : Listing) (s : State) : Step :=
  match s.token with
  | .sign "\x7d" => close listing s
  | .sign "..." => .ok (s.take.push
      [.candidate true, .part s.take.here, .spreadMember s.take.here, .moreMembers listing])
  | .sign "*" => .ok (s.take.push [.propertyName, .methodTail s.here, .moreMembers listing])
  | .word name => ofWord name (s.push [.moreMembers listing])
  | _ => .ok (s.push [.propertyName, .memberTail s.here, .moreMembers listing])

/-- A member that is named by a word alone. Other names cannot stand alone and are reported. -/
def alone (name : Extent) (s : State) : Step :=
  if s.lastNames then .ok (s.settle .name name) else .error (.unexpected s.last)

def memberTail (name : Extent) (s : State) : Step :=
  match s.token with
  | .sign ":" => .ok (s.take.push [.candidate true, .part s.take.here])
  | .sign "(" => methodTail name s
  | .sign "," | .sign "\x7d" => alone name s
  | .sign "=" => do
    let s ← alone name s
    return s.take.push [.assignment true, .initialized name]
  | _ => s.unexpected

/-- After a default for a member, which only a pattern can have. -/
def initialized (name : Extent) (s : State) : Step :=
  .ok (s.noExpression ⟨name, s.lastEnd.offset⟩)

/-- After members that another object stands for. In a pattern they come last and have a name. -/
def spreadMember (start : Extent) (s : State) : Step := do
  let s ← match s.operand.form with
    | .name | .member => .ok s
    | _ => do
      let s ← s.noParameter start
      s.noTarget start
  if s.token = .sign "\x7d" then return s else s.noTarget s.last

def moreMembers (listing : Listing) (s : State) : Step :=
  let listing := { listing with held := s.heldWith listing.held }
  let s := s.clearCover
  match s.token with
  | .sign "\x7d" => close listing s
  | .sign "," => .ok (s.take.push [.members listing])
  | _ => s.unexpected

/-- The name of a property: a word of any kind, a text, a number, or an expression in brackets. -/
def propertyName (s : State) : Step :=
  match s.token with
  | .word _ | .number | .string => .ok s.take
  | .sign "[" => .ok (s.take.push [.assignment true, .sign "]"])
  | _ => s.unexpected

end SnippetReview.Script.Literal
