import SnippetReview.Script.State

/-!
Goals about imports and exports.
-/

set_option autoImplicit false

namespace SnippetReview.Script.Module

/-- What is imported: everything under a name, the listed names, or the default and one of these. -/
def importClause (s : State) : Step :=
  match s.token with
  | .sign "*" => do
    let s ← s.take.expectWord "as"
    s.expectName
  | .sign "\x7b" => .ok (s.take.push [.importNames])
  | .word name =>
    if !isName name then s.unexpected
    else if s.take.token = .sign "," then
      if s.take.take.atSign ["*", "\x7b"] then .ok (s.take.take.push [.importClause])
      else s.take.blame s.take.here
    else .ok s.take
  | _ => s.unexpected

/-- The listed names up to the closing brace. Each can get another name; what it is called here must
be a name of its own. -/
def importNames (s : State) : Step :=
  match s.token with
  | .sign "\x7d" => .ok s.take
  | .word _ | .string =>
    if s.take.token = .word "as" then do
      let s ← s.take.take.expectName
      return s.push [.moreNames .importNames]
    else if s.take.lastNames then .ok (s.take.push [.moreNames .importNames])
    else s.take.blame s.here
  | _ => s.unexpected

/-- The listed names up to the closing brace, and the module they are taken from. Each can get
another name. Names that are not taken from a module must be names of their own; `wrong` is the
first that is not. -/
def exportNames (wrong : Option Extent) (s : State) : Step :=
  match s.token with
  | .sign "\x7d" => .ok (s.take.push [.exportSource wrong])
  | .word _ | .string =>
    let wrong := wrong <|> if s.take.lastNames then none else some s.here
    let more : Goal := .moreNames (.exportNames wrong)
    if s.take.token = .word "as" then .ok (s.take.take.push [.propertyName, more])
    else .ok (s.take.push [more])
  | _ => s.unexpected

def moreNames (list : Goal) (s : State) : Step :=
  if s.token = .sign "," then .ok (s.take.push [list])
  else if s.token = .sign "\x7d" then .ok (s.push [list])
  else s.unexpected

def moduleName (s : State) : Step :=
  if s.token = .string then .ok s.take else s.unexpected

/-- The module that names are taken from. Without one there must be nothing wrong with them. -/
def exportSource (wrong : Option Extent) (s : State) : Step :=
  if s.token = .word "from" then .ok (s.take.push [.moduleName, .importAttributes])
  else s.unlessWrong wrong

def importAttributes (s : State) : Step :=
  if (s.token = .word "with" || s.token = .word "assert") && !s.breaks &&
      s.take.token = .sign "\x7b" then
    .ok (s.take.take.push [.members ⟨s.cover, s.here⟩])
  else .ok s

/-- What is exported by default: a function or class with or without a name, or a value. -/
def exportDefault (s : State) : Step :=
  let value : Step := .ok (s.push [.assignment true, .endOfStatement])
  match s.operandToken with
  | .word "function" => .ok (s.take.push [.function false])
  | .word "class" => .ok (s.take.push [.classHead false])
  | .word "async" =>
    if s.take.token = .word "function" && !s.take.breaks then
      .ok (s.take.take.push [.function false])
    else value
  | _ => value

/-- What is exported, from after the keyword. What cannot be exported leaves the keyword without
use. -/
def exportClause (s : State) : Step :=
  let declaration : Step := .ok (s.push [.item .block])
  match s.token with
  | .sign "*" =>
    let source : List Goal := [.word "from", .moduleName, .importAttributes, .endOfStatement]
    if s.take.token = .word "as" then .ok (s.take.take.push (.propertyName :: source))
    else .ok (s.take.push source)
  | .sign "\x7b" => .ok (s.take.push [.exportNames none, .endOfStatement])
  | .word "default" => exportDefault s.take
  | .word "var" | .word "let" | .word "const" | .word "function" | .word "class" => declaration
  | .word "async" =>
    if s.take.token = .word "function" && !s.take.breaks then declaration else s.take.blame s.here
  | _ => s.blame s.last

end SnippetReview.Script.Module
