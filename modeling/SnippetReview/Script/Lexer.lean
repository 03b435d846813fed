import SnippetReview.Script.Token

/-!
Reading tokens off the front of a source. Each function counts the characters of what it looks for.
-/

set_option autoImplicit false

namespace SnippetReview.Script

/-- What is being passed over between tokens. `fresh` says that nothing but space and comments lies
behind on the line. -/
inductive Trivia where
  | space (fresh : Bool)
  | lineComment
  /-- A comment that needs a closing mark. -/
  | blockComment (fresh : Bool)

/-- Passes over space and comments: how many characters, and whether a line ends among them. The
opening mark of a markup comment starts a comment up to the end of the line, and so does its closing
mark on a fresh line. A comment that is never closed is not passed over. -/
def triviaLength : Trivia → List Char → Nat × Bool
  | _, [] => (0, false)
  | .space _, [c] => if isSpace c then (1, endsLine c) else (0, false)
  | .space fresh, c :: d :: rest =>
    if isSpace c then
      let (n, breaks) := triviaLength (.space (fresh || endsLine c)) (d :: rest)
      (n + 1, breaks || endsLine c)
    else if opensLineComment fresh c d rest then
      let (n, breaks) := triviaLength .lineComment rest
      (n + 2, breaks)
    else if c = '/' && d = '*' && closesComment rest then
      let (n, breaks) := triviaLength (.blockComment fresh) rest
      (n + 2, breaks)
    else (0, false)
  | .lineComment, c :: rest =>
    let (n, breaks) := triviaLength (if endsLine c then .space true else .lineComment) rest
    (n + 1, breaks || endsLine c)
  | .blockComment _, [_] => (1, false)
  | .blockComment fresh, c :: d :: rest =>
    if c = '*' && d = '/' then
      let (n, breaks) := triviaLength (.space fresh) rest
      (n + 2, breaks)
    else
      let (n, breaks) := triviaLength (.blockComment (fresh || endsLine c)) (d :: rest)
      (n + 1, breaks || endsLine c)
where
  /-- Whether a comment up to the end of the line starts with two characters and those after them.
  -/
  opensLineComment (fresh : Bool) (c d : Char) (rest : List Char) : Bool :=
    (c = '/' && d = '/') || (c = '<' && d = '!' && "--".toList.isPrefixOf rest) ||
      (fresh && c = '-' && d = '-' && rest.head? = some '>')
  /-- Whether a comment is closed somewhere. -/
  closesComment : List Char → Bool
    | [] => false
    | [_] => false
    | c :: d :: rest => (c = '*' && d = '/') || closesComment (d :: rest)

def isHexDigit (c : Char) : Bool :=
  c.isDigit || ('a' ≤ c && c ≤ 'f') || ('A' ≤ c && c ≤ 'F')

def hexValue (digits : List Char) : Nat :=
  digits.foldl (fun value c => value * 16 + if c.isDigit then c.toNat - 48 else c.toNat % 32 + 9) 0

/-- What is wrong with an escape of a code point, from after its backslash and letter on: how many
characters from the backslash on the fault comes. -/
def codePointFault? (source : List Char) : Option Nat :=
  if source.head? = some '\x7b' then
    let digits := (source.drop 1).takeWhile isHexDigit
    if hexValue digits > 0x10FFFF then some 0
    else if digits.isEmpty || (source.drop (1 + digits.length)).head? ≠ some '\x7d' then
      some (3 + digits.length)
    else none
  else if (source.take 4).countP isHexDigit = 4 then none else some 0

inductive NamePart where
  | plain
  /-- After the backslash of an escape. -/
  | escape
  /-- Between the braces of an escape. -/
  | braces

/-- The characters of a name, escapes included. -/
def nameLength : NamePart → List Char → Nat
  | _, [] => 0
  | .plain, c :: rest =>
    if inName c then nameLength .plain rest + 1
    else if c = '\\' && rest.head? = some 'u' && codePointFault? (rest.drop 1) = none then
      nameLength .escape rest + 1
    else 0
  | .escape, _ :: rest =>
    nameLength (if rest.head? = some '\x7b' then .braces else .plain) rest + 1
  | .braces, c :: rest => nameLength (if c = '\x7d' then .plain else .braces) rest + 1

/-- A text from after its opening quote through its closing one. A line can only go on in it after a
backslash. -/
def stringLength? (quote : Char) (escaped : Bool) : List Char → Option Nat
  | [] => none
  | c :: rest =>
    if escaped then
      (stringLength? quote (c = '\r' && rest.head? = some '\n') rest).map (· + 1)
    else if c = quote then some 1
    else if c = '\n' || c = '\r' then none
    else (stringLength? quote (c = '\\') rest).map (· + 1)

/-- The first fault in the escapes of a text: how many characters come before it. The text ends at
the given character or at the end of its line. -/
def escapeFault? (closing : Char) : List Char → Option Nat
  | [] => none
  | [_] => none
  | c :: d :: rest =>
    if c = closing || (endsLine c && closing ≠ '\x60') then none
    else if c = '\\' then
      let fault :=
        if d = 'x' then if (rest.take 2).countP isHexDigit = 2 then none else some 0
        else if d = 'u' then codePointFault? rest
        else none
      fault <|> (escapeFault? closing rest).map (· + 2)
    else (escapeFault? closing (d :: rest)).map (· + 1)

/-- A regular expression from after its first slash through its last one. A slash in square brackets
does not close it. -/
def regexLength? (inBrackets : Bool) : List Char → Option Nat
  | [] => none
  | [c] => if c = '/' && !inBrackets then some 1 else none
  | c :: d :: rest =>
    if endsLine c then none
    else if c = '\\' then
      if endsLine d then none else (regexLength? inBrackets rest).map (· + 2)
    else if c = '/' && !inBrackets then some 1
    else
      let inBrackets := if c = '[' then true else if c = ']' then false else inBrackets
      (regexLength? inBrackets (d :: rest)).map (· + 1)

def digitsLength (isDigit : Char → Bool) : List Char → Nat
  | [] => 0
  | [c] => if isDigit c then 1 else 0
  | c :: d :: rest =>
    if isDigit c then
      if d = '_' && rest.head?.any isDigit then 2 + digitsLength isDigit rest
      else 1 + digitsLength isDigit (d :: rest)
    else 0

def exponentLength : List Char → Nat
  | e :: rest =>
    if e = 'e' || e = 'E' then
      let sign := (rest.take 1).countP fun c => c = '+' || c = '-'
      let digits := digitsLength Char.isDigit (rest.drop sign)
      if digits = 0 then 0 else 1 + sign + digits
    else 0
  | [] => 0

def decimalLength (source : List Char) : Nat :=
  let whole := digitsLength Char.isDigit source
  match source.drop whole with
  | 'n' :: _ => whole + 1
  | '.' :: rest =>
    let fraction := digitsLength Char.isDigit rest
    whole + 1 + fraction + exponentLength (rest.drop fraction)
  | rest => whole + exponentLength rest

def digitsOf? (letter : Char) : Option (Char → Bool) :=
  if letter = 'x' || letter = 'X' then some isHexDigit
  else if letter = 'o' || letter = 'O' then some fun c => '0' ≤ c && c ≤ '7'
  else if letter = 'b' || letter = 'B' then some fun c => c = '0' || c = '1'
  else none

/-- A number at the front of a source that starts with a digit or with a point and a digit. Without
the digits that its letter announces it is no more than the zero. -/
def numberLength (source : List Char) : Nat :=
  match source with
  | '0' :: '_' :: _ => 1
  | '0' :: letter :: rest =>
    match digitsOf? letter with
    | some isDigit =>
      let digits := digitsLength isDigit rest
      if digits = 0 then 1 else 2 + digits + ((rest.drop digits).take 1).count 'n'
    | none => decimalLength source
  | _ => decimalLength source

/-- A number; it is no token if a name or another digit follows it at once. An underscore that does
not separate digits is itself at fault. -/
def numberLexeme (source : List Char) : Lexeme :=
  let length := numberLength source
  match source.drop length with
  | [] => .whole .number length
  | c :: rest =>
    if c = '_' && (source.take length).getLast?.any isHexDigit then
      .faulty length (nameLength .plain (c :: rest))
    else .whole (if adheres c then .bad else .number) length

/-- A name of so many characters; it is no token if a backslash follows it at once. What looks like
an escape is then itself at fault. -/
def wordLexeme (name : Nat) (source : List Char) : Lexeme :=
  match source.drop name with
  | '\\' :: 'u' :: rest => .faulty (name + (codePointFault? rest).getD 0) 1
  | '\\' :: _ => .whole .bad name
  | _ => .whole (.word (String.ofList (source.take name))) name

def areFlags : List Char → Bool
  | [] => true
  | c :: rest => "dgimsuvy".toList.contains c && !rest.contains c && areFlags rest

def regexLexeme (rest : List Char) : Lexeme :=
  match regexLength? false rest with
  | none => .marked .bad 1
  | some length =>
    let flags := (rest.drop length).takeWhile adheres
    if areFlags flags then .marked .regex (1 + length + flags.length) else .marked .bad 1

def isStray (c : Char) : Bool :=
  c = '#' || c = '\\' || (c.toNat < 0x20 && !isSpace c)

/-- A sign at the front of a source. A question mark and a point before a digit are two signs. -/
def sign? (source : List Char) : Option String :=
  signs.find? fun sign => sign.toList.isPrefixOf source &&
    !(sign = "?." && ((source.drop 2).take 1).any Char.isDigit)

/-- A sign, or else a run of characters that no token starts with. -/
def signLexeme (source : List Char) : Lexeme :=
  match sign? source with
  | some sign => .whole (.sign sign) sign.length
  | none => .whole .bad (max 1 (source.takeWhile isStray).length)

def stringLexeme (quote : Char) (rest : List Char) : Lexeme :=
  match stringLength? quote false rest, escapeFault? quote rest with
  | some length, none => .marked .string (length + 1)
  | none, none => .marked .bad 1
  | _, some lead => .faulty (lead + 1) 1

def lexeme (expectsOperand : Bool) (source : List Char) : Lexeme :=
  let name := nameLength .plain source
  match source with
  | [] => .whole .finish 0
  | c :: rest =>
    if c.isDigit || (c = '.' && (rest.take 1).any Char.isDigit) then numberLexeme source
    else if name > 0 then wordLexeme name source
    else if c = '"' || c = '\'' then stringLexeme c rest
    else if c = '\x60' then .marked .template 1
    else if c = '#' && (rest.take 1).any startsName then
      .whole .privateName (1 + nameLength .plain rest)
    else if c = '/' && (rest.take 1).contains '*' then .marked .bad 1
    else if c = '/' && expectsOperand then regexLexeme rest
    else signLexeme source

inductive TemplateStop where
  | closed
  | substitution
  | unclosed

/-- Template text: how many characters before what ends it. -/
def templateLength : List Char → Nat × TemplateStop
  | [] => (0, .unclosed)
  | [c] => if c = '\x60' then (0, .closed) else (1, .unclosed)
  | c :: d :: rest =>
    if c = '\x60' then (0, .closed)
    else if c = '$' && d = '\x7b' then (0, .substitution)
    else if c = '\\' then
      let (n, stop) := templateLength rest
      (n + 2, stop)
    else
      let (n, stop) := templateLength (d :: rest)
      (n + 1, stop)

end SnippetReview.Script
