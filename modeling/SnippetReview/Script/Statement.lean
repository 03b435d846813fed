import SnippetReview.Script.State

/-!
Goals about statements and declarations.
-/

set_option autoImplicit false

namespace SnippetReview.Script.Statement

/-- Statements up to a closing brace or the end, or up to the next case of a switch. -/
def statements (level : Level) (s : State) : Step :=
  let another : Step := .ok (s.push [.item level, .statements level])
  match s.operandToken with
  | .finish => .ok s
  | .sign "\x7d" => .ok s
  | .word name =>
    if level = .switchCase && (name = "case" || name = "default") then .ok s else another
  | _ => another

def ofExpression (s : State) : Step :=
  .ok (s.push [.expression true, .endOfStatement])

def condition : List Goal :=
  [.sign "(", .expression true, .sign ")"]

/-- A value to be thrown starts on the line of its keyword. -/
def throwing (s : State) : Step :=
  let after := s.take
  if after.breaks then .error (.unexpected s.here)
  else .ok (after.push [.expression true, .endOfStatement])

def returning (s : State) : Step :=
  let after := s.take
  if after.endsStatement || after.token = .sign ";" then .ok (after.push [.endOfStatement])
  else .ok (after.push [.expression true, .endOfStatement])

def jumping (s : State) : Step :=
  let after := s.take
  match after.token with
  | .word name =>
    if isName name && !after.breaks then .ok (after.take.push [.endOfStatement])
    else .ok (after.push [.endOfStatement])
  | _ => .ok (after.push [.endOfStatement])

/-- An import, unless it is used as a function or for its properties. -/
def importing (s : State) : Step :=
  match s.take.token with
  | .sign "(" | .sign "." => ofExpression s
  | .string => .ok (s.take.take.push [.importAttributes, .endOfStatement])
  | _ => .ok (s.take.push
      [.importClause, .word "from", .moduleName, .importAttributes, .endOfStatement])

def startsAsyncFunction (s : State) : Bool :=
  s.token = .word "async" && s.take.token = .word "function" && !s.take.breaks

/-- A statement that starts with a word, if it does not declare anything and is no label. -/
def ofWord (name : String) (s : State) : Step :=
  match name with
  | "if" => .ok (s.take.push (condition ++ [.clause .branch, .elseBranch]))
  | "for" => .ok (s.take.push [.loopHead])
  | "while" | "with" => .ok (s.take.push (condition ++ [.clause .loop]))
  | "do" => .ok (s.take.push ([.clause .loop, .word "while"] ++ condition ++ [.optionalSemicolon]))
  | "try" => .ok (s.take.push [.block, .handlers])
  | "switch" => .ok (s.take.push (condition ++ [.sign "\x7b", .switchCases]))
  | "throw" => throwing s
  | "return" => returning s
  | "break" | "continue" => jumping s
  | "debugger" => .ok (s.take.push [.endOfStatement])
  | "var" => .ok (s.take.push [.declarations false, .endOfStatement])
  | _ => ofExpression s

/-- A statement that declares nothing in its block; names before it are labels. -/
def plain (s : State) : Step :=
  match s.operandToken with
  | .sign "\x7b" => .ok (s.push [.block])
  | .sign ";" => .ok s.take
  | .word name =>
    if isName name && name ≠ "yield" && s.take.token = .sign ":" then
      .ok (s.take.take.push [.clause .branch])
    else ofWord name s
  | _ => ofExpression s

/-- A statement in a list of statements. Only outside of all braces it can import or export. -/
def item (level : Level) (s : State) : Step :=
  let labelled := s.take.token = .sign ":"
  match s.token with
  | .word "function" => .ok (s.take.push [.function true])
  | .word "class" => .ok (s.take.push [.classHead true])
  | .word "const" => .ok (s.take.push [.declarations true, .endOfStatement])
  | .word "let" =>
    if s.take.startsBinding then .ok (s.take.push [.declarations false, .endOfStatement])
    else plain s
  | .word "async" =>
    if startsAsyncFunction s then .ok (s.take.take.push [.function true]) else plain s
  | .word "import" => if level = .top || labelled then importing s else nestedImport s
  | .word "export" => if level = .top then .ok (s.take.push [.exportClause]) else s.unexpected
  | _ => plain s
where
  /-- Where nothing can be imported, the word can only be a function or stand for its properties. -/
  nestedImport (s : State) : Step :=
    if s.take.atSign ["(", "."] then ofExpression s else s.unexpected

def startsDeclaration (s : State) : Bool :=
  match s.token with
  | .word "class" | .word "const" | .word "export" => true
  | .word "import" => !s.take.atSign ["(", "."]
  | .word "let" => s.take.token = .sign "[" || (s.take.startsBinding && !s.take.breaks)
  | _ => startsAsyncFunction s

/-- A single statement. It declares nothing, unless it is a branch and a function. -/
def clause (kind : Clause) (s : State) : Step :=
  if startsDeclaration s then s.unexpected
  else if s.token = .word "function" then
    if kind = .loop then s.unexpected
    else if s.take.token = .sign "*" then s.take.unexpected
    else .ok (s.take.push [.function true])
  else plain s

/-- A semicolon, or a place where none is needed. -/
def endOfStatement (s : State) : Step :=
  if s.token = .sign ";" then .ok s.take
  else if s.endsStatement then .ok s
  else s.unexpected

def optionalSemicolon (s : State) : Step :=
  if s.token = .sign ";" then .ok s.take else .ok s

def after (name : String) (goals : List Goal) (s : State) : Step :=
  if s.token = .word name then .ok (s.take.push goals) else .ok s

/-- What handles the errors of a block. If nothing does, the brace that closes the block is
reported. -/
def handlers (s : State) : Step :=
  match s.token with
  | .word "catch" => .ok (s.take.push [.catchParameter, .block, .finallyClause])
  | .word "finally" => .ok (s.take.push [.block])
  | _ => s.blame s.last

def catchParameter (s : State) : Step :=
  if s.token = .sign "(" then .ok (s.take.push [.binding, .sign ")"]) else .ok s

def switchCases (s : State) : Step :=
  match s.token with
  | .sign "\x7d" => .ok s.take
  | .word "case" =>
    .ok (s.take.push [.expression true, .sign ":", .statements .switchCase, .switchCases])
  | .word "default" => .ok (s.take.push [.sign ":", .statements .switchCase, .switchCases])
  | _ => s.unexpected

def declarations (constant : Bool) (s : State) : Step :=
  .ok (s.push [.binding, .initializer s.here (constant || s.startsPattern),
    .moreDeclarations constant])

/-- The value of a binding. If a semicolon in its place ends the declaration, the equals sign is
reported. A binding that needs a value is itself reported, unless its declaration goes on or ends
all the same. -/
def initializer (binding : Extent) (needsValue : Bool) (s : State) : Step :=
  match s.token with
  | .sign "=" =>
    if s.take.endsForGood then .error (.unexpected s.here)
    else .ok (s.take.push [.assignment true])
  | .sign ";" | .sign "," | .finish => .ok s
  | _ => if needsValue && !s.breaks then .error (.unexpected binding) else .ok s

def moreDeclarations (constant : Bool) (s : State) : Step :=
  if s.token = .sign "," then .ok (s.take.push [.declarations constant]) else .ok s

end SnippetReview.Script.Statement
