import SnippetReview.Text.Basic
import SnippetReview.Text.Blank
import SnippetReview.Text.Word

/-!
Patterns: what a text can begin with at a given place, and where it occurs.

A pattern may match in several ways. `Pattern.ends` lists the places where a match can end, the
preferred one first: a repetition prefers to be long, and of two alternatives the first is preferred.
A text has a match at the leftmost place from which there is any.
-/

set_option autoImplicit false

namespace SnippetReview

/-- A place in a text: the code point before it, if there is one, and the text after it. -/
structure Cursor where
  before : Option CodePoint
  rest : Text
deriving DecidableEq

namespace Cursor

def start (text : Text) : Cursor := ⟨none, text⟩

def upTo (here later : Cursor) : Text :=
  here.rest.take (here.rest.length - later.rest.length)

/-- Between a word character and something else, or the start or end of the text. -/
def atBoundary (here : Cursor) : Bool :=
  here.before.any CodePoint.isWord != here.rest.head?.any CodePoint.isWord

/-- At the end of the text, or before a line feed that ends it. -/
def atFinish (here : Cursor) : Bool :=
  here.rest = [] || here.rest = [CodePoint.ofChar '\n']

/-- The first success of a test, trying the place itself and then each later one. -/
def findFrom {α : Type} (test : Cursor → Option α) : Option CodePoint → Text → Option α
  | before, [] => test ⟨before, []⟩
  | before, c :: rest => test ⟨before, c :: rest⟩ <|> findFrom test (some c) rest

end Cursor

inductive Pattern where
  /-- Nothing at all. -/
  | empty
  /-- One code point of a class. -/
  | one (accepts : CodePoint → Bool)
  /-- Any number of code points of a class. -/
  | many (accepts : CodePoint → Bool)
  /-- One pattern and then another. -/
  | seq (first second : Pattern)
  /-- One pattern, or else another. -/
  | alt (first second : Pattern)
  /-- The edge of a word. -/
  | boundary
  /-- The end of the text, a final line feed aside. -/
  | finish

namespace Pattern

/-- The places that a run of a class from here can reach, the furthest first; `nearer` are those
already known to be less far. -/
def reach (accepts : CodePoint → Bool) : Option CodePoint → Text → List Cursor → List Cursor
  | before, [], nearer => ⟨before, []⟩ :: nearer
  | before, c :: rest, nearer =>
    if accepts c then reach accepts (some c) rest (⟨before, c :: rest⟩ :: nearer)
    else ⟨before, c :: rest⟩ :: nearer

/-- Where a match that starts here can end, the preferred end first. -/
def ends : Pattern → Cursor → List Cursor
  | empty, here => [here]
  | one accepts, here =>
    match here.rest with
    | [] => []
    | c :: rest => if accepts c then [⟨some c, rest⟩] else []
  | many accepts, here => reach accepts here.before here.rest []
  | seq first second, here => (first.ends here).flatMap second.ends
  | alt first second, here => first.ends here ++ second.ends here
  | boundary, here => if here.atBoundary then [here] else []
  | finish, here => if here.atFinish then [here] else []

instance : Append Pattern := ⟨seq⟩

instance : OrElse Pattern := ⟨fun first second => alt first (second ())⟩

def exactly (text : Text) : Pattern :=
  text.foldr (fun c rest => seq (one (· = c)) rest) empty

/-- One of the given texts; earlier ones are preferred. -/
def oneOf : List Text → Pattern
  | [] => one fun _ => false
  | [text] => exactly text
  | text :: more => alt (exactly text) (oneOf more)

def atLeastOne (accepts : CodePoint → Bool) : Pattern :=
  seq (one accepts) (many accepts)

def optional (pattern : Pattern) : Pattern :=
  alt pattern empty

def matchesStart (pattern : Pattern) (text : Text) : Bool :=
  !(pattern.ends (Cursor.start text)).isEmpty

def occursIn (pattern : Pattern) (text : Text) : Bool :=
  (Cursor.findFrom (fun here => (pattern.ends here).head?) none text).isSome

/-- What `part` matches, directly after a match of `lead` that starts here. -/
def partAfter (lead part : Pattern) (here : Cursor) : Option Text :=
  (lead.ends here).findSome? fun middle => (part.ends middle).head?.map middle.upTo

/-- What `part` matches in the leftmost match of `lead` followed by `part`. -/
def find? (lead part : Pattern) (text : Text) : Option Text :=
  Cursor.findFrom (partAfter lead part) none text

end Pattern

end SnippetReview
