import SnippetReview.Text.Basic

/-!
JSON values. Objects are lists of members, so that a value can be written with its members in any
order; of several members of one name the last one counts.
-/

set_option autoImplicit false

namespace SnippetReview

/-- A JSON value. Numbers with a fraction or an exponent, and the three that are not finite, are
kept as they were written. -/
inductive Json where
  | null
  | bool (value : Bool)
  | int (value : Int)
  | real (written : Text)
  | str (value : Text)
  | arr (items : List Json)
  | obj (members : List (Text × Json))

namespace Json

/-- The value of the last member with a name, of an object. -/
def member? (name : Text) : Json → Option Json
  | obj members => members.reverse.lookup name
  | _ => none

def str? : Json → Option Text
  | str value => some value
  | _ => none

def member (name : Text) (value : Json) : Text × Json :=
  (name, value)

def optionalMember (name : Text) (value : Option Json) : List (Text × Json) :=
  value.toList.map (member name)

def notFinite : List Text := ["NaN", "Infinity", "-Infinity"]

mutual

/-- The levels of nesting that a value takes. A number that is not finite is looked up, which takes
one as well. -/
def levels : Json → Nat
  | real written => if written ∈ notFinite then 1 else 0
  | arr items => levelsOfItems items + 1
  | obj members => levelsOfMembers members + 1
  | _ => 0

def levelsOfItems : List Json → Nat
  | [] => 0
  | item :: rest => max item.levels (levelsOfItems rest)

def levelsOfMembers : List (Text × Json) → Nat
  | [] => 0
  | (_, value) :: rest => max value.levels (levelsOfMembers rest)

end

/-- Puts a member into a list that is ordered by name. -/
def insertMember (member : Text × Json) : List (Text × Json) → List (Text × Json)
  | [] => [member]
  | other :: rest =>
    if Text.le member.1 other.1 then member :: other :: rest
    else other :: insertMember member rest

mutual

def sorted : Json → Json
  | arr items => arr (sortedItems items)
  | obj members => obj (sortedMembers members)
  | other => other

def sortedItems : List Json → List Json
  | [] => []
  | item :: rest => sorted item :: sortedItems rest

def sortedMembers : List (Text × Json) → List (Text × Json)
  | [] => []
  | (name, value) :: rest => insertMember (name, sorted value) (sortedMembers rest)

end

end Json

end SnippetReview
