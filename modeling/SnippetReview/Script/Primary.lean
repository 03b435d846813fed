import SnippetReview.Script.State

/-!
Goals about operands: names and literals, what is in parentheses, and the members, calls and
templates that follow.
-/

set_option autoImplicit false

namespace SnippetReview.Script.Primary

def making (s : State) : Step :=
  let start := s.here
  let after := s.take
  match after.token with
  | .sign "." =>
    if after.take.token = .word "target" then .ok (after.take.take.settle .value start)
    else after.take.unexpected
  | .word "import" =>
    if after.take.token = .sign "(" then after.unexpected
    else .ok (after.push [.primary, .access .construct, .newArguments start])
  | _ => .ok (after.push [.primary, .access .construct, .newArguments start])

def newArguments (start : Extent) (s : State) : Step :=
  match s.token with
  | .sign "(" =>
    .ok (s.take.push [.arguments .call s.cover, .settle .value start, .access .construct])
  | .sign "?." => s.unexpected
  | _ => .ok (s.settle .value start)

/-- The word `async`: with a function or a single parameter on the same line, with what can turn out
to be parameters, or as a name. -/
def asynchronous (s : State) : Step :=
  let word := s.here
  let after := s.take
  let asName : Step := .ok (after.settle .name word)
  if after.breaks then asName
  else
    match after.token with
    | .word "function" => .ok (after.take.push [.function false, .settle .value word])
    | .word name =>
      if isName name && after.take.token = .sign "=>" then .ok (after.take.settle .name after.here)
      else asName
    | .sign "(" => .ok ((after.take.uncovered false).push
        [.arguments .async (Cover.fresh false), .asyncHead word s.cover])
    | _ => asName

def asyncHead (word : Extent) (outer : Cover) (s : State) : Step := do
  let leave (s : State) : State := { s.settle .call word with cover := outer }
  if s.token = .sign "=>" then
    let s ← s.unlessWrong s.cover.parameters
    let s ← s.unlessWrong s.cover.target
    let s := leave s
    return { s with operand := { s.operand with grouped := true } }
  else return leave (← s.asExpression)

def importing (s : State) : Step :=
  let start := s.here
  let after := s.take
  match after.token with
  | .sign "(" =>
    if after.take.token = .sign ")" then after.unexpected
    else .ok (after.take.push [.candidate true, .importRest, .settle .value start])
  | .sign "." =>
    if after.take.token = .word "meta" then .ok (after.take.take.settle .value start)
    else after.take.unexpected
  | _ => after.unexpected

def importRest (s : State) : Step :=
  if s.token = .sign "," then
    if s.take.token = .sign ")" then .ok s.take.take
    else
      .ok (s.take.push [.candidate true, .importRest])
  else s.expectSign ")"

def inherited (s : State) : Step :=
  if s.take.atSign [".", "[", "("] then .ok (s.take.settle .value s.here) else s.unexpected

def ofWord (name : String) (s : State) : Step :=
  let start := s.here
  match name with
  | "function" => .ok (s.take.push [.function false, .settle .value start])
  | "class" => .ok (s.take.push [.classHead false, .settle .value start])
  | "new" => making s
  | "async" => asynchronous s
  | "import" => importing s
  | "super" => inherited s
  | "this" | "null" | "true" | "false" => .ok (s.take.settle .value start)
  | _ => if isName name then .ok (s.take.settle .name start) else s.unexpectedOperand

/-- After an opening parenthesis. Empty parentheses need an arrow after them. -/
def grouping (opening : Extent) (s : State) : Step :=
  if s.token = .sign ")" then
    if s.take.token = .sign "=>" then
      let s := s.take.settle .value opening
      .ok { s with operand := { s.operand with grouped := true } }
    else s.take.blame s.here
  else .ok ((s.uncovered false).push [.series true, .group s.cover])

/-- The closing parenthesis. What is before it turns out to be parameters if an arrow follows, and
an expression otherwise. -/
def group (outer : Cover) (s : State) : Step := do
  let s ← s.expectSign ")"
  let s ←
    if s.token = .sign "=>" then do
      let s ← s.unlessWrong s.cover.parameters
      s.unlessWrong s.cover.target
    else s.asExpression
  return { s with cover := outer, operand := { s.operand with grouped := true } }

/-- An operand without operators before it and without members behind it. -/
def primary (s : State) : Step :=
  let start := s.here
  match s.operandToken with
  | .word name => ofWord name s
  | .number | .string | .regex => .ok (s.takeOperand.settle .value start)
  | .template => .ok ((s.skip 1).push [.template start false, .settle .value start])
  | .sign "(" => grouping start s.take
  | .sign "[" => .ok (s.take.clearCover.push [.elements ⟨s.cover, start⟩])
  | .sign "\x7b" => .ok (s.take.clearCover.push [.members ⟨s.cover, start⟩])
  | .sign "<" => .ok ((s.skip 1).skipTrivia.push [.tag, .markupEnd start, .settle .value start])
  | _ => s.unexpectedOperand

def memberForm : Link → Form
  | .optional => .optionalMember
  | _ => .member

/-- A member after a point. Outside of classes none is private, and the point is reported. -/
def memberAccess (link : Link) (point : Extent) (s : State) : Step :=
  let anchor := match link with
    | .construct | .plain => s.here
    | _ => point
  let found : Step := .ok ((s.take.settle (memberForm link) anchor).push [.access link])
  match s.token with
  | .word _ => found
  | .privateName => if s.inClass then found else .error (.unexpected point)
  | _ => s.unexpected

def subscript (link : Link) (s : State) : Step :=
  .ok (s.take.push [.series true, .sign "]", .settle (memberForm link) s.here, .access link])

/-- Arguments. A call stands at the name before it, if there is one. -/
def call (link : Link) (s : State) : Step :=
  let anchor := if s.lastNames then s.last else s.here
  let form := match link with
    | .optional => Form.value
    | _ => .call
  let after := match link with
    | .optional => Link.optional
    | _ => .called
  .ok (s.take.push [.arguments .call s.cover, .settle form anchor, .access after])

/-- What follows an optional point. Of two optional points the first one is reported. -/
def optionalAccess (point : Extent) (s : State) : Step :=
  match s.token with
  | .sign "?." => .error (.unexpected point)
  | .sign "(" => call .optional s
  | .sign "[" => subscript .optional s
  | .template => s.unexpected
  | _ => memberAccess .optional point s

def access (link : Link) (s : State) : Step :=
  match s.token with
  | .sign "." => memberAccess link s.here s.take
  | .sign "?." => if link = .construct then .ok s else optionalAccess s.here s.take
  | .sign "[" => subscript link s
  | .sign "(" => if link = .construct then .ok s else call link s
  | .template =>
    if link = .optional then s.unexpected
    else
      let start := s.here
      .ok ((s.skip 1).push [.template start true, .settle .value start, .access link])
  | _ => .ok s

def arguments (place : ArgumentPlace) (held : Cover) (s : State) : Step :=
  if s.token = .sign ")" then
    .ok { s.take with cover := s.heldWith held }
  else
    let first := if s.token = .sign "..." then s.take else s
    .ok (first.clearCover.push [.candidate true, .argument place (s.heldWith held) first.here])

/-- After an argument. If a list neither goes on nor is closed, what stands before is reported. -/
def argument (place : ArgumentPlace) (held : Cover) (start : Extent) (s : State) : Step := do
  let held := s.heldWith held
  let s := s.clearCover
  let s ← if place = .async && !s.canBeParameter then s.noParameter start else .ok s
  match s.token with
  | .sign "," => return s.take.push [.arguments place held]
  | .sign ")" => arguments place held s
  | _ => if place = .await then s.unexpected else s.blame s.last

/-- Template text up to its end or up to an expression in it. `opening` is the mark before the text.
The escapes of a template that is not tagged have to stand for something. -/
def template (opening : Extent) (tagged : Bool) (s : State) : Step :=
  let (n, stop) := templateLength s.rest
  match if tagged then none else escapeFault? '\x60' (s.rest.take (n + 1)), stop with
  | some lead, _ => .error (.unexpected (s.extentOf (.faulty lead 1)))
  | none, .unclosed => .error .ended
  | none, .substitution =>
    let after := (s.skip (n + 2)).skipTrivia
    .ok (after.push [.series true, .templateEnd after.here tagged])
  | none, .closed =>
    let after := s.skip (n + 1)
    .ok { after.skipTrivia with last := opening, lastEnd := after.place, lastNames := false }

/-- The end of an expression in a template. What is not ended by a brace is reported from its
start. -/
def templateEnd (inner : Extent) (tagged : Bool) (s : State) : Step :=
  if s.token = .sign "\x7d" then .ok ((s.skip 1).push [.template s.here tagged]) else s.blame inner

end SnippetReview.Script.Primary
