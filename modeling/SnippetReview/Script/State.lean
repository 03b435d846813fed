import SnippetReview.Script.Goal

/-!
The state of the script parser: the source that is left, and an agenda of goals to be met by it.

The parser is predictive. Meeting a goal looks at the next token, may take it, and may put further
goals on the agenda; it never goes back.
-/

set_option autoImplicit false

namespace SnippetReview.Script

structure State where
  /-- The source from the next token on. -/
  rest : List Char
  place : Place
  /-- Whether a line ends before the next token. -/
  breaks : Bool
  /-- The token before, and the place after it. -/
  last : Extent
  lastEnd : Place
  /-- Whether the token before is a name. -/
  lastNames : Bool
  operand : Operand
  cover : Cover
  agenda : List Goal

abbrev Step := Except Problem State

namespace State

def skip : Nat → State → State
  | 0, s => s
  | n + 1, s =>
    match s.rest with
    | [] => s
    | c :: rest => skip n { s with rest := rest, place := s.place.after c }

/-- Moves over space and comments. `fresh` says that the place is the start of a line. -/
def skipTriviaFrom (fresh : Bool) (s : State) : State :=
  let (n, breaks) := triviaLength (.space fresh) s.rest
  { s.skip n with breaks := breaks }

/-- Moves over space and comments behind a token. -/
def skipTrivia (s : State) : State :=
  s.skipTriviaFrom false

def lexeme (s : State) : Lexeme :=
  Script.lexeme false s.rest

def operandLexeme (s : State) : Lexeme :=
  Script.lexeme true s.rest

def token (s : State) : Token :=
  s.lexeme.token

def operandToken (s : State) : Token :=
  s.operandLexeme.token

def extentOf (s : State) (lexeme : Lexeme) : Extent :=
  let shown := s.skip lexeme.lead
  ⟨shown.place, (shown.skip lexeme.shown).place.offset⟩

def here (s : State) : Extent :=
  s.extentOf s.operandLexeme

def takeLexeme (s : State) (lexeme : Lexeme) : State :=
  let after := s.skip lexeme.length
  let names := match lexeme.token with
    | .word name => isName name
    | _ => false
  { after.skipTrivia with last := s.extentOf lexeme, lastEnd := after.place, lastNames := names }

def take (s : State) : State :=
  s.takeLexeme s.lexeme

def takeOperand (s : State) : State :=
  s.takeLexeme s.operandLexeme

def push (s : State) (goals : List Goal) : State :=
  { s with agenda := goals ++ s.agenda }

def settle (s : State) (form : Form) (anchor : Extent) : State :=
  { s with operand := ⟨form, false, anchor⟩ }

def refuse (s : State) (lexeme : Lexeme) : Step :=
  if lexeme.token = .finish then .error .ended else .error (.unexpected (s.extentOf lexeme))

def unexpected (s : State) : Step :=
  s.refuse s.lexeme

def unexpectedOperand (s : State) : Step :=
  s.refuse s.operandLexeme

/-- A problem with something before, unless the source ends here. -/
def blame (s : State) (extent : Extent) : Step :=
  if s.token = .finish then .error .ended else .error (.unexpected extent)

def unlessWrong (s : State) (wrong : Option Extent) : Step :=
  match wrong with
  | some extent => .error (.unfit extent)
  | none => .ok s

/-- The problem with what was read if it has to be an expression, if there is one. -/
def asExpression (s : State) : Step :=
  s.unlessWrong (s.cover.expression.map Fault.shown)

def canBeParameter (s : State) : Bool :=
  !s.operand.grouped && [Form.name, .pattern, .assignment].contains s.operand.form

def uncovered (s : State) (binds : Bool) : State :=
  { s with cover := Cover.fresh binds }

def noTarget (s : State) (extent : Extent) : Step :=
  if s.cover.binds then .error (.unexpected extent)
  else .ok { s with cover := { s.cover with target := some extent } }

def noParameter (s : State) (extent : Extent) : Step :=
  if s.cover.binds then .error (.unexpected extent)
  else .ok { s with cover := { s.cover with parameters := some extent } }

def noExpression (s : State) (fault : Fault) : State :=
  { s with cover := { s.cover with expression := some fault } }

def heldWith (s : State) (held : Cover) : Cover :=
  held.join s.cover

def clearCover (s : State) : State :=
  { s with cover := s.cover.cleared }

def expectSign (s : State) (text : String) : Step :=
  if s.token = .sign text then .ok s.take else s.unexpected

def expectWord (s : State) (name : String) : Step :=
  if s.token = .word name then .ok s.take else s.unexpected

def expectName (s : State) : Step :=
  match s.token with
  | .word name => if isName name then .ok s.take else s.unexpected
  | _ => s.unexpected

def atSign (s : State) (signs : List String) : Bool :=
  match s.token with
  | .sign text => signs.contains text
  | _ => false

def startsOperand (s : State) : Bool :=
  match s.operandToken with
  | .word name => operandWords.contains name || isName name
  | .sign text => unarySigns.contains text || ["(", "[", "\x7b", "<"].contains text
  | .bad | .finish => false
  | _ => true

def startsBinding (s : State) : Bool :=
  match s.token with
  | .word name => isName name
  | .sign text => text = "[" || text = "\x7b"
  | _ => false

def startsPattern (s : State) : Bool :=
  s.atSign ["[", "\x7b"]

def endsStatement (s : State) : Bool :=
  s.breaks || s.token = .finish || s.token = .sign "\x7d"

def inClass (s : State) : Bool :=
  s.agenda.any fun goal => match goal with
    | .classMembers => true
    | _ => false

/-- Whether the next token is a semicolon after which the source ends or a new statement has to
start. -/
def endsForGood (s : State) : Bool :=
  s.token = .sign ";" && match s.take.operandToken with
    | .finish => true
    | .word name => !s.take.startsOperand && name ≠ "in" && name ≠ "instanceof"
    | _ => false

def start (source : List Char) : State :=
  let first := if "#!".toList.isPrefixOf source then (source.takeWhile (!endsLine ·)).length else 0
  let origin : Place := ⟨0, 0, 0⟩
  let nowhere : Extent := ⟨origin, 0⟩
  let s : State := ⟨source, origin, false, nowhere, origin, false, ⟨.value, false, nowhere⟩,
    Cover.fresh false, [.statements .top, .finish]⟩
  (s.skip first).skipTriviaFrom true

end State

end SnippetReview.Script
