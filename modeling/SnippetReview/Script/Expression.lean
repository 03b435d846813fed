import SnippetReview.Script.State

/-!
Goals about expressions made of operands and operators.
-/

set_option autoImplicit false

namespace SnippetReview.Script.Expression

/-- Expressions separated by commas, under a cover of their own. -/
def expression (inAllowed : Bool) (s : State) : Step :=
  .ok ((s.uncovered false).push [.series inAllowed, .checked s.cover])

/-- An expression without commas, under a cover of its own. -/
def assignment (inAllowed : Bool) (s : State) : Step :=
  .ok ((s.uncovered false).push [.candidate inAllowed, .checked s.cover])

def checked (outer : Cover) (s : State) : Step := do
  let s ← s.asExpression
  return { s with cover := outer }

/-- Whether parentheses are being read that can turn out to be around parameters. -/
def inGroup (s : State) : Bool :=
  match s.agenda with
  | .group _ :: _ => true
  | _ => false

/-- A part of a series, or the last parameters of an arrow function. -/
def part (inAllowed several : Bool) (held : Cover) (s : State) : Step :=
  let start := s.here
  if s.token = .sign "..." then
    if s.take.token = .finish && !inGroup s then .error (.unexpected start)
    else .ok (s.take.push [.bindingTarget, .afterRest start s.take.here held])
  else .ok (s.push [.candidate inAllowed, .afterCandidate inAllowed several held start])

def series (inAllowed : Bool) (s : State) : Step :=
  part inAllowed false s.cover s.clearCover

def asParameter (start : Extent) (s : State) : Step :=
  if s.canBeParameter then .ok s else s.noParameter start

/-- After a part of a series. A comma can end a list of parameters. -/
def afterCandidate (inAllowed several : Bool) (held : Cover) (start : Extent) (s : State) : Step :=
  do
  let held := s.heldWith held
  let s ← asParameter start s.clearCover
  let finish (several : Bool) (s : State) : State :=
    let cover := { s.cover with expression := held.expression, target := held.target }
    let s := { s with cover := cover }
    if several then s.settle .value start else s
  if s.token = .sign "," then
    let after := s.take
    if after.token = .sign ")" && after.take.token = .sign "=>" then return finish true after
    else part inAllowed true held after
  else return finish several s

/-- After the binding of the last parameters. A closing parenthesis and an arrow have to follow;
else the ellipsis is reported. -/
def afterRest (ellipsis start : Extent) (held : Cover) (s : State) : Step := do
  let s ← asParameter start { s with cover := s.heldWith held }
  if s.atSign ["=", ","] then .error (.unexpected s.last)
  else if s.token = .sign ")" && s.take.token = .sign "=>" then return s.settle .value start
  else if inGroup s then s.blame ellipsis
  else .error (.unexpected ellipsis)

/-- An expression that starts with `yield`, whose operand may be left out or stand for a whole
sequence. -/
def yielding (inAllowed : Bool) (s : State) : Step :=
  let start := s.here
  let after := s.take
  let ends : Bool := match after.token with
    | .finish | .word "in" => true
    | .sign text => [";", "\x7d", "]", ")", ":", ","].contains text
    | _ => false
  let whole : List Goal := [.candidate inAllowed, .settle .value start]
  if after.breaks then .ok (after.settle .value start)
  else if after.token = .sign "*" then .ok (after.take.push whole)
  else if ends then .ok (after.settle .value start)
  else .ok (after.push whole)

def candidate (inAllowed : Bool) (s : State) : Step :=
  if s.token = .word "yield" then yielding inAllowed s
  else .ok (s.push [.term, .operator inAllowed s.here Chain.empty])

def finished (start : Extent) (chain : Chain) (s : State) : Step :=
  if chain.joint.isSome then .ok (s.settle .value start) else .ok s

def inDeclaration (s : State) : Bool :=
  match s.agenda with
  | .checked _ :: .moreDeclarations _ :: _ => true
  | _ => false

/-- What joins operands when a further operator follows. Of equal operators that do not compare,
what stands for the first operand stands for the whole; else it is the last operator that binds
weakest, and for `??` what comes after it. -/
def joint (chain : Chain) (sign : String) (s : State) : Joint :=
  let anchor := if sign = "??" then s.take.here else s.here
  match chain.joint with
  | none => ⟨sign, anchor, s.operand.anchor⟩
  | some joint =>
    if bindingStrength joint.operator < bindingStrength sign || sign = "**" then joint
    else if joint.operator = sign && !comparisons.contains sign then
      { joint with anchor := joint.left }
    else ⟨sign, anchor, joint.anchor⟩

/-- An operator between two operands. Without parentheses `??` does not go with `&&` and `||`. A
plus in the value of a declaration is itself reported if a semicolon ends the declaration there. -/
def joining (inAllowed : Bool) (start : Extent) (chain : Chain) (sign : String) (s : State) :
    Step :=
  let logical := sign = "&&" || sign = "||"
  let fallback := sign = "??"
  let next : Chain :=
    ⟨some (joint chain sign s), chain.logical || logical, chain.fallback || fallback⟩
  if next.logical && next.fallback then s.unexpected
  else if sign = "+" && inDeclaration s && s.take.endsForGood then s.unexpected
  else .ok (s.take.push [.term, .operator inAllowed start next])

/-- An arrow and the body of its function. What cannot be parameters is reported. -/
def arrow (inAllowed : Bool) (chain : Chain) (s : State) : Step :=
  if chain.joint.isSome || (s.operand.form ≠ .name && !s.operand.grouped) then
    .error (.unexpected ((chain.joint.map Joint.anchor).getD s.operand.anchor))
  else if s.breaks then s.unexpected
  else
    let after := s.take
    let body : Goal := if after.token = .sign "\x7b" then .block else .assignment inAllowed
    .ok (after.push [body, .settle .value s.operand.anchor])

/-- Whether an assignment can be made to what was read. A pattern must be free of faults, and from
then on it is no expression. -/
def asTarget (sign : String) (start : Extent) (s : State) : Step :=
  match s.operand.form with
  | .name => if s.operand.grouped then s.noParameter start else .ok s
  | .member => s.noParameter start
  | .pattern =>
    if sign = "=" && !s.operand.grouped then do
      let s ← s.unlessWrong s.cover.target
      return { s with cover := { s.cover with expression := none } }
    else .error (.unexpected start)
  | .call => if decidingSigns.contains sign then .error (.unexpected start) else s.noTarget start
  | _ => .error (.unexpected start)

/-- A sign that assigns, and the value. What cannot be assigned to is reported from its start. -/
def assigning (inAllowed : Bool) (start : Extent) (chain : Chain) (sign : String) (s : State) :
    Step :=
  if chain.joint.isSome then .error (.unexpected start)
  else do
    let s ← asTarget sign start s
    return s.take.push [.assignment inAllowed, .assigned start (sign ≠ "=")]

/-- After an operand: an operator and what it needs, or the end of the expression. `start` is where
the expression starts. -/
def operator (inAllowed : Bool) (start : Extent) (chain : Chain) (s : State) : Step :=
  match s.token with
  | .word "instanceof" => joining inAllowed start chain "instanceof" s
  | .word "in" =>
    if inAllowed then joining inAllowed start chain "in" s else finished start chain s
  | .sign "?" => .ok (s.take.push
      [.assignment true, .sign ":", .assignment inAllowed, .settle .value start])
  | .sign "=>" => arrow inAllowed chain s
  | .sign sign =>
    if binarySigns.contains sign then joining inAllowed start chain sign s
    else if assignmentSigns.contains sign then assigning inAllowed start chain sign s
    else finished start chain s
  | _ => finished start chain s

/-- After an assignment. A pattern can only have a plain one as its default. -/
def assigned (start : Extent) (compound : Bool) (s : State) : Step :=
  let s := s.settle .assignment start
  if compound then s.noTarget start else .ok s

def plain (start : Extent) : List Goal :=
  [.primary, .access .plain, .postfixed start]

/-- The word `await`: before an operand, or as a name. Where it can be either, it is read so that
both are possible. -/
def awaiting (s : State) : Step :=
  let word := s.here
  let after := s.take
  let named : List Goal := [.access .plain, .postfixed word]
  let asName : Step := .ok ((after.settle .name word).push named)
  let asSign : Step := .ok (after.push [.operand, .signed word])
  match after.operandToken with
  | .sign "(" =>
    .ok (after.take.push (.arguments .await s.cover :: .settle .call word :: named))
  | .sign "[" =>
    .ok (after.take.clearCover.push (.elements ⟨s.cover, word⟩ :: .settle .member word :: named))
  | .sign "++" | .sign "--" => if after.take.startsOperand then asSign else asName
  | .sign "<" => if startsTag after.take then asSign else asName
  | .sign text => if ["+", "-"].contains text || !after.startsOperand then asName else asSign
  | .regex => if after.takeOperand.startsOperand then asName else asSign
  | .word "of" => if after.take.startsOperand then asName else asSign
  | _ => if after.startsOperand then asSign else asName
where
  /-- Whether the sign before can open an element. -/
  startsTag (s : State) : Bool :=
    match s.token with
    | .sign ">" => true
    | .word _ => match s.take.token with
      | .word _ | .sign ">" | .sign "/" | .sign "\x7b" => true
      | _ => false
    | _ => false

def operand (s : State) : Step :=
  let start := s.here
  let signed : Step := .ok (s.take.push [.operand, .signed start])
  match s.operandToken with
  | .sign sign =>
    if sign = "++" || sign = "--" then .ok (s.take.push [.operand, .updated s.take.here])
    else if unarySigns.contains sign then signed
    else .ok (s.push (plain start))
  | .word "typeof" | .word "void" | .word "delete" => signed
  | .word "await" => awaiting s
  | _ => .ok (s.push (plain start))

/-- The name of a private member that an object is asked for. Outside of classes there are none, and
what stands before is reported, if there is anything. -/
def privateName (s : State) : Step :=
  if !s.inClass then .error (.unexpected (if s.last.stop = 0 then s.here else s.last))
  else if s.take.token = .word "in" then .ok (s.take.settle .value s.here)
  else .error (.unexpected s.here)

def term (s : State) : Step :=
  if s.token = .privateName then privateName s else operand s

/-- Whether what was read can be counted up or down; else it is reported from its start. -/
def asCounter (start : Extent) (s : State) : Step :=
  match s.operand.form with
  | .name | .member => .ok s
  | .call => s.noTarget start
  | _ => .error (.unexpected start)

/-- After an operand with a sign or a word before it, which is reported if `**` follows. -/
def signed (start : Extent) (s : State) : Step :=
  if s.token = .sign "**" then .error (.unexpected start) else .ok (s.settle .value start)

def updated (start : Extent) (s : State) : Step := do
  let s ← asCounter start s
  return s.settle .value s.last

/-- After an operand: a sign on the same line that counts up or down, if there is one. -/
def postfixed (start : Extent) (s : State) : Step :=
  if s.atSign ["++", "--"] && !s.breaks then do
    let s ← asCounter start s
    return s.take.settle .value s.here
  else .ok s

end SnippetReview.Script.Expression
