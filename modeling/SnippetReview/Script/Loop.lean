import SnippetReview.Script.State

/-!
Goals about the heads of loops that go through something or count.
-/

set_option autoImplicit false

namespace SnippetReview.Script.Loop

def head (s : State) : Step :=
  let isAwait := s.token = .word "await"
  let s := if isAwait then s.take else s
  .ok (s.push [.sign "(", .loopStart isAwait])

def binding (bindings : LoopBindings) (s : State) : Step :=
  .ok (s.push [.binding, .loopBinding bindings s.here s.startsPattern])

def start (isAwait : Bool) (s : State) : Step :=
  let declared (keyword : String) : Step :=
    binding ⟨isAwait, keyword, s.take.here, none, false, false⟩ s.take
  let target : Step :=
    let goals : List Goal := if isAwait then [.primary, .access .plain] else [.series false]
    .ok ((s.uncovered false).push (goals ++ [.loopTarget isAwait s.here s.cover]))
  match s.operandToken with
  | .sign ";" => if isAwait then target else .ok (s.push [.loopRest])
  | .word "var" => declared "var"
  | .word "const" => declared "const"
  | .word "let" => if s.take.startsBinding then declared "let" else target
  | _ => target

def goesThrough (s : State) : Bool :=
  s.token = .word "of" || s.token = .word "in"

def source (s : State) : Step :=
  let value : Goal := if s.token = .word "of" then .assignment true else .expression true
  .ok (s.take.push [value, .sign ")", .clause .loop])

/-- After a binding: its value, or what the loop goes through. A binding that needs a value and has
none is itself reported. -/
def afterBinding (bindings : LoopBindings) (binding : Extent) (patterned : Bool) (s : State) :
    Step :=
  let bindings := { bindings with patterned := bindings.patterned || patterned }
  if s.token = .sign "=" then
    let bindings := { bindings with valued := bindings.valued <|> some s.last }
    .ok (s.take.push [.assignment false, .loopMore bindings])
  else if !goesThrough s && (bindings.keyword = "const" || patterned) then s.blame binding
  else .ok (s.push [.loopMore bindings])

/-- Whether bindings are such that a loop can go through something for them: there is one, and it
has no value, unless it is a plain name after `var` and the loop goes through names. -/
def asTarget (bindings : LoopBindings) (s : State) : Step :=
  let valueAllowed := s.token = .word "in" && bindings.keyword = "var" && !bindings.patterned
  if bindings.several then .error (.unexpected bindings.first)
  else if valueAllowed && !bindings.isAwait then .ok s
  else s.unlessWrong bindings.valued

def more (bindings : LoopBindings) (s : State) : Step := do
  if s.token = .sign "," then binding { bindings with several := true } s.take
  else if bindings.isAwait then
    let s ← asTarget bindings s
    if s.token = .word "of" then source s else s.unexpected
  else if goesThrough s then
    let s ← asTarget bindings s
    source s
  else return s.push [.loopRest]

def asExpressionTarget (start : Extent) (s : State) : Step :=
  match s.operand.form with
  | .name | .member | .call => .ok s
  | .pattern =>
    if s.operand.grouped then .error (.unexpected start) else s.unlessWrong s.cover.target
  | _ => .error (.unexpected start)

/-- After an expression in the head of a loop, which may be a target for what the loop goes
through. -/
def target (isAwait : Bool) (start : Extent) (outer : Cover) (s : State) : Step := do
  if isAwait || goesThrough s then
    let s ← asExpressionTarget start s
    let s := { s with cover := outer }
    if s.token = .word "of" || !isAwait then source s else s.unexpected
  else
    let s ← s.asExpression
    return { s with cover := outer }.push [.loopRest]

def rest (s : State) : Step :=
  .ok (s.push [.sign ";", .expressionUnless ";", .sign ";", .expressionUnless ")", .sign ")",
    .clause .loop])

def expressionUnless (text : String) (s : State) : Step :=
  if s.token = .sign text then .ok s else .ok (s.push [.expression true])

end SnippetReview.Script.Loop
