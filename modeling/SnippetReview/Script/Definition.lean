import SnippetReview.Script.Literal

/-!
Goals about what binds names: bindings, functions and classes.
-/

set_option autoImplicit false

namespace SnippetReview.Script.Definition

def bindingTarget (s : State) : Step :=
  let start := s.here
  match s.token with
  | .sign "[" => .ok (s.take.clearCover.push [.elements ⟨s.cover, start⟩])
  | .sign "\x7b" => .ok (s.take.clearCover.push [.members ⟨s.cover, start⟩])
  | _ => do
    let s ← s.expectName
    return s.settle .name start

def binding (s : State) : Step :=
  .ok ((s.uncovered true).push [.bindingTarget, .bound s.cover])

def bound (outer : Cover) (s : State) : Step :=
  .ok { s with cover := outer }

def defaultValue (s : State) : Step :=
  if s.token = .sign "=" then .ok (s.take.push [.assignment true]) else .ok s

/-- A function from after its keyword. If a name is needed and missing, what stands before the
parameters is reported. -/
def function (needsName : Bool) (s : State) : Step :=
  let s := if s.token = .sign "*" then s.take else s
  let rest : List Goal := [.parameters, .block]
  match s.token with
  | .word name => if isName name then .ok (s.take.push rest) else s.unexpected
  | .sign "(" => if needsName then .error (.unexpected s.last) else .ok (s.push rest)
  | _ => s.unexpected

def parameterList (s : State) : Step :=
  match s.token with
  | .sign ")" => .ok s.take
  | .sign "..." => .ok (s.take.push [.binding, .restParameter])
  | _ => .ok (s.push [.binding, .defaultValue, .moreParameters])

/-- After a parameter. If the body follows at once, the parenthesis is missing. -/
def moreParameters (s : State) : Step :=
  match s.token with
  | .sign "," => .ok (s.take.push [.parameterList])
  | .sign "\x7b" => .error (.missing s.lastEnd)
  | _ => s.expectSign ")"

/-- After a parameter that stands for all the rest, which comes last and has no default. -/
def restParameter (s : State) : Step :=
  if s.token = .sign "," then s.unexpected else moreParameters s

def classHead (needsName : Bool) (s : State) : Step :=
  match s.token with
  | .word name =>
    if isName name then .ok (s.take.push [.classTail])
    else if needsName then s.unexpected
    else .ok (s.push [.classTail])
  | _ => if needsName then s.unexpected else .ok (s.push [.classTail])

def classTail (s : State) : Step :=
  let rest : List Goal := [.sign "\x7b", .classMembers]
  if s.token = .word "extends" then
    .ok ((s.take.uncovered false).push ([.primary, .access .plain, .checked s.cover] ++ rest))
  else .ok (s.push rest)

def classMembers (s : State) : Step :=
  match s.token with
  | .sign "\x7d" => .ok s.take
  | .sign ";" => .ok (s.take.push [.classMembers])
  | _ => .ok (s.push [.classMember, .classMembers])

def classMember (s : State) : Step :=
  if s.token = .word "static" then
    if s.take.token = .sign "\x7b" then .ok (s.take.push [.block])
    else if s.take.atSign ["(", "=", ";", "\x7d"] then .ok (s.take.push [.elementTail s.here])
    else .ok (s.take.push [.classElement])
  else .ok (s.push [.classElement])

def classElement (s : State) : Step :=
  let after := s.take
  let plain : Step := .ok (after.push [.elementTail s.here])
  match s.token with
  | .sign "*" => .ok (after.push [.memberName, .method])
  | .word "get" | .word "set" =>
    if Literal.endsName after then plain else .ok (after.push [.memberName, .method])
  | .word "async" =>
    if after.breaks || (Literal.endsName after && !after.atSign ["*"]) then plain
    else
      let after := if after.token = .sign "*" then after.take else after
      .ok (after.push [.memberName, .method])
  | _ => .ok (s.push [.memberName, .elementTail s.here])

/-- After the name of a member: a method, or a field with or without a value. A name as in an object
is itself reported. -/
def elementTail (name : Extent) (s : State) : Step :=
  match s.token with
  | .sign "(" => .ok (s.push [.method])
  | .sign ":" | .sign "," => .error (.unexpected name)
  | .sign "=" => .ok (s.take.push [.assignment true, .endOfStatement])
  | _ => .ok (s.push [.endOfStatement])

def memberName (s : State) : Step :=
  if s.token = .privateName then .ok s.take else .ok (s.push [.propertyName])

end SnippetReview.Script.Definition
