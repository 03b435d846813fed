import SnippetReview.Text.Blank

/-!
Files of assignments: lines such as `NAME=value`, with comments, quotes and `export` allowed.

A line that is no assignment is passed over. A name may stand without a value.
-/

set_option autoImplicit false

namespace SnippetReview.Assignments

abbrev Assignment := Text × Option Text

def endsLine (c : CodePoint) : Bool :=
  c = '\n' || c = '\r'

def isSpace (c : CodePoint) : Bool :=
  c.isBlank && !endsLine c

def unifyLines : Text → Text
  | [] => []
  | [c] => if c = '\r' then ['\n'] else [c]
  | c :: d :: rest =>
    if c = '\r' then
      if d = '\n' then '\n' :: unifyLines rest else '\n' :: unifyLines (d :: rest)
    else c :: unifyLines (d :: rest)

def skipSpace (text : Text) : Text :=
  text.dropWhile isSpace

def skipExport (text : Text) : Text :=
  let word : Text := "export"
  let rest := text.drop word.length
  if word.isPrefixOf text && rest.head?.any isSpace then skipSpace rest else text

/-- A quoted text from after its opening quote on. A backslash before a quote keeps the quote, unless
no other quote follows. -/
def quoted? (quote : CodePoint) : Text → Option (Text × Text)
  | [] => none
  | [c] => if c = quote then some ([], []) else none
  | c :: d :: rest =>
    if c = quote then some ([], d :: rest)
    else if c = '\\' && d = quote then
      match quoted? quote rest with
      | some (value, rest) => some (c :: d :: value, rest)
      | none => some ([c], rest)
    else (quoted? quote (d :: rest)).map fun (value, rest) => (c :: value, rest)

def controls : List (Char × Char) := [
  ('a', '\x07'), ('b', '\x08'), ('f', '\x0c'), ('n', '\n'), ('r', '\r'), ('t', '\t'), ('v', '\x0b')]

def singleEscape? (c : CodePoint) : Option CodePoint :=
  if c = '\\' || c = '\'' then some c else none

def doubleEscape? (c : CodePoint) : Option CodePoint :=
  if c = '\\' || c = '\'' || c = '"' then some c
  else (controls.find? fun pair => c = pair.1).map fun pair => CodePoint.ofChar pair.2

/-- The text with its escapes replaced; a backslash before anything else stays. -/
def unescape (escape? : CodePoint → Option CodePoint) : Text → Text
  | [] => []
  | [c] => [c]
  | c :: d :: rest =>
    if c = '\\' then
      match escape? d with
      | some value => value :: unescape escape? rest
      | none => c :: unescape escape? (d :: rest)
    else c :: unescape escape? (d :: rest)

def cutComment : Text → Text
  | [] => []
  | c :: rest =>
    if c.isBlank && (rest.dropWhile CodePoint.isBlank).head? = some (CodePoint.ofChar '#') then []
    else c :: cutComment rest

def value? (text : Text) : Option (Text × Text) :=
  match text with
  | [] => some ([], [])
  | c :: rest =>
    if c = '\'' then
      (quoted? c rest).map fun (value, rest) => (unescape singleEscape? value, rest)
    else if c = '"' then
      (quoted? c rest).map fun (value, rest) => (unescape doubleEscape? value, rest)
    else
      let line := text.takeWhile (!endsLine ·)
      some ((cutComment line).trimRight, text.drop line.length)

def skipLine (text : Text) : Text :=
  text.dropWhile (!endsLine ·)

/-- Whether the line ends here, blanks and a comment aside; and the text after its end. -/
def lineEnd? (text : Text) : Option Text :=
  let rest := skipSpace text
  let rest := if rest.head? = some (CodePoint.ofChar '#') then skipLine rest else rest
  match rest with
  | [] => some []
  | c :: rest => if endsLine c then some rest else none

/-- A name and the text after it: in single quotes, or up to an equals sign, a number sign or a
blank. A comment has no name. -/
def name? (text : Text) : Option (Option Text × Text) :=
  match text with
  | [] => none
  | c :: rest =>
    if c = '#' then some (none, text)
    else if c = '\'' then
      match rest.span (· ≠ c) with
      | (_ :: _, []) | ([], _) => none
      | (name, _ :: rest) => some (some name, rest)
    else
      match text.takeWhile fun c : CodePoint => c ≠ '=' && c ≠ '#' && !c.isBlank with
      | [] => none
      | name => some (some name, text.drop name.length)

/-- An assignment, or a comment, and the text after it; or the text where a line that is neither
goes wrong. -/
def line (text : Text) : Except Text (Option Assignment × Text) := do
  let start := skipExport text
  let (name, rest) ← (name? start).elim (.error start) .ok
  let rest := skipSpace rest
  let (value, rest) ← match rest with
    | [] => .ok (none, rest)
    | c :: after =>
      if c = '=' then
        let start := skipSpace after
        (value? start).elim (.error start) fun (value, rest) => .ok (some value, rest)
      else .ok (none, rest)
  let after ← (lineEnd? rest).elim (.error rest) .ok
  return (name.map fun name => (name, value), after)

/-- The assignments of a text, at most as many as the first number allows. -/
def readLines : Nat → Text → List Assignment
  | 0, _ => []
  | fuel + 1, text =>
    match text.dropWhile CodePoint.isBlank with
    | [] => []
    | start =>
      match line start with
      | .ok (assignment, rest) => assignment.toList ++ readLines fuel rest
      | .error rest => readLines fuel ((skipLine rest).drop 1)

/-- The assignments of a file in their order. Each takes at least one code point. -/
def read (file : Text) : List Assignment :=
  readLines (file.length + 1) (unifyLines file)

end SnippetReview.Assignments
