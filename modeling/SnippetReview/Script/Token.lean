import SnippetReview.Text.Letter

/-!
The tokens of scripts, and what separates them.

Which token stands at a place can depend on what is expected there: a slash begins a regular
expression where an operand is expected, and divides elsewhere.
-/

set_option autoImplicit false

namespace SnippetReview.Script

inductive Token where
  /-- A name or a keyword. -/
  | word (name : String)
  /-- A name of a private member. -/
  | privateName
  | number
  | string
  /-- The start of a template. -/
  | template
  | regex
  /-- An operator or a bracket or another sign. -/
  | sign (text : String)
  /-- Something that is no token, or that is never closed. -/
  | bad
  /-- The end of the source. -/
  | finish
deriving DecidableEq

/-- A token with its number of characters, and which of them name it in a message: `shown` of them
after the first `lead`. Only the opening mark names a text, a template or a regular expression, and
only the fault in it what is no token. -/
structure Lexeme where
  token : Token
  length : Nat
  lead : Nat
  shown : Nat

namespace Lexeme

def whole (token : Token) (length : Nat) : Lexeme :=
  ⟨token, length, 0, length⟩

def marked (token : Token) (length : Nat) : Lexeme :=
  ⟨token, length, 0, 1⟩

/-- Something that is no token because of the characters after the first `lead`. -/
def faulty (lead shown : Nat) : Lexeme :=
  ⟨.bad, lead + shown, lead, shown⟩

end Lexeme

def reservedWords : List String := [
  "break", "case", "catch", "class", "const", "continue", "debugger", "default", "delete", "do",
  "else", "enum", "export", "extends", "false", "finally", "for", "function", "if", "import", "in",
  "instanceof", "new", "null", "return", "super", "switch", "this", "throw", "true", "try",
  "typeof", "var", "void", "while", "with"]

def operandWords : List String := [
  "class", "delete", "false", "function", "import", "new", "null", "super", "this", "true",
  "typeof", "void"]

def isName (word : String) : Bool :=
  !reservedWords.contains word

/-- The signs, so that the longest that fits comes first. -/
def signs : List String := [
  ">>>=", "...", "===", "!==", "**=", "<<=", ">>=", ">>>", "&&=", "||=", "??=", "=>", "==", "!=",
  "<=", ">=", "&&", "||", "??", "?.", "++", "--", "+=", "-=", "*=", "/=", "%=", "&=", "|=", "^=",
  "<<", ">>", "**", "\x7b", "\x7d", "(", ")", "[", "]", ";", ",", "<", ">", "+", "-", "*", "/", "%",
  "&", "|", "^", "!", "~", "?", ":", "=", ".", "@"]

def binarySigns : List String := [
  "+", "-", "*", "/", "%", "**", "==", "!=", "===", "!==", "<", ">", "<=", ">=", "<<", ">>", ">>>",
  "&", "|", "^", "&&", "||", "??"]

def bindingStrength (operator : String) : Nat :=
  let levels : List (List String) := [
    ["??"], ["||"], ["&&"], ["|"], ["^"], ["&"], ["==", "!=", "===", "!=="],
    ["<", ">", "<=", ">=", "in", "instanceof"], ["<<", ">>", ">>>"], ["+", "-"], ["*", "/", "%"],
    ["**"]]
  levels.findIdx (·.contains operator)

def comparisons : List String := [
  "==", "!=", "===", "!==", "<", ">", "<=", ">=", "in", "instanceof"]

def assignmentSigns : List String := [
  "=", "+=", "-=", "*=", "/=", "%=", "**=", "<<=", ">>=", ">>>=", "&=", "|=", "^=", "&&=", "||=",
  "??="]

def decidingSigns : List String := ["&&=", "||=", "??="]

def unarySigns : List String := ["!", "~", "+", "-", "++", "--"]

def endsLine (c : Char) : Bool :=
  c = '\n' || c = '\r' || c = '\u2028' || c = '\u2029'

def isSpace (c : Char) : Bool :=
  endsLine c || c = ' ' || c = '\t' || c = '\x0b' || c = '\x0c' || c = '\u00a0' || c = '\u1680' ||
    ('\u2000' ≤ c && c ≤ '\u200b') || c = '\u202f' || c = '\u205f' || c = '\u2060' ||
    c = '\u3000' || c = '\ufeff'

/-- Whether a name can go on with a character. Of ASCII these are letters, digits, underscore,
dollar sign and delete; of the rest, everything but space. -/
def inName (c : Char) : Bool :=
  c.isAlphanum || c = '_' || c = '$' || (c.toNat ≥ 0x7F && !isSpace c)

/-- Whether a character cannot follow a number or a regular expression at once. Of the characters
that are not ASCII these are the letters of the first plane. -/
def adheres (c : Char) : Bool :=
  c.isAlphanum || c = '_' || c = '$' || c = '\\' ||
    (0x7F < c.toNat && c.toNat < 0x10000 && (CodePoint.ofChar c).isLetter)

def startsName (c : Char) : Bool :=
  inName c && !c.isDigit

end SnippetReview.Script
