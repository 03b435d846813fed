import SnippetReview.Script.State

/-!
Goals about markup in expressions: elements with attributes and children, and expressions in braces
among them. Between a tag and its end, text stands for itself.
-/

set_option autoImplicit false

namespace SnippetReview.Script.Markup

def inMarkupName (c : Char) : Bool :=
  inName c || c = '-' || c = '.' || c = ':'

def skipName (s : State) : State :=
  (s.skip (s.rest.takeWhile inMarkupName).length).skipTrivia

def tag (s : State) : Step :=
  match s.rest with
  | '>' :: _ => .ok ((s.skip 1).push [.children])
  | c :: _ => if startsName c then .ok ((skipName s).push [.attributes]) else s.unexpected
  | [] => s.unexpected

/-- Goals for what is in braces: nothing, or an expression that an ellipsis can stand before. -/
def inBraces (closing : Goal) (s : State) : State :=
  if s.token = .sign "\x7d" then s.push [closing]
  else (if s.token = .sign "..." then s.take else s).push [.expression true, closing]

def attributes (s : State) : Step :=
  let s := s.skipTrivia
  match s.rest with
  | '/' :: _ =>
    let after := (s.skip 1).skipTrivia
    if after.rest.head? = some '>' then .ok (after.skip 1) else after.unexpected
  | '>' :: _ => .ok ((s.skip 1).push [.children])
  | '\x7b' :: _ =>
    .ok (s.take.push [.sign "...", .assignment true, .sign "\x7d", .attributes])
  | c :: _ =>
    if startsName c then .ok ((skipName s).push [.attributeValue, .attributes]) else s.unexpected
  | [] => s.unexpected

/-- The value of an attribute, if it has one. A text ends at the next quote of its kind. -/
def attributeValue (s : State) : Step :=
  if s.rest.head? = some '=' then
    let s := (s.skip 1).skipTrivia
    match s.rest with
    | '\x7b' :: _ => .ok (inBraces (.sign "\x7d") s.take)
    | '<' :: _ => .ok ((s.skip 1).skipTrivia.push [.tag])
    | c :: rest =>
      if c = '"' || c = '\'' then
        .ok (s.skip (2 + (rest.takeWhile (· ≠ c)).length)).skipTrivia
      else s.unexpected
    | [] => s.unexpected
  else .ok s.skipTrivia

def children (s : State) : Step :=
  let s := s.skip (s.rest.takeWhile fun c => c ≠ '<' && c ≠ '\x7b').length
  match s.rest with
  | '<' :: _ =>
    let after := (s.skip 1).skipTrivia
    match after.rest with
    | '/' :: _ =>
      let after := skipName (after.skip 1).skipTrivia
      if after.rest.head? = some '>' then .ok (after.skip 1) else after.unexpected
    | _ => .ok (after.push [.tag, .children])
  | '\x7b' :: _ => .ok (inBraces .childEnd (s.take.push [.children]))
  | _ => s.unexpected

def childEnd (s : State) : Step :=
  if s.token = .sign "\x7d" then .ok (s.skip 1) else s.unexpected

def markupEnd (s : State) : Step :=
  .ok s.skipTrivia

end SnippetReview.Script.Markup
