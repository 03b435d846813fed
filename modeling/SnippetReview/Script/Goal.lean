import SnippetReview.Script.Lexer
import SnippetReview.Script.Tree

/-!
What the script parser still has to do, as goals: each says what the rest of the source has to start
with.

Some of what looks like an expression turns out to be something else once an equals sign or an arrow
follows. So expressions are read with a cover: a note of what is wrong with them under each reading.
-/

set_option autoImplicit false

namespace SnippetReview.Script

structure Place where
  offset : Nat
  row : Nat
  column : Nat

def Place.after (place : Place) (c : Char) : Place :=
  if c = '\n' then ⟨place.offset + 1, place.row + 1, 0⟩
  else ⟨place.offset + c.utf8Size, place.row, place.column + c.utf8Size⟩

structure Extent where
  start : Place
  stop : Nat

/-- Why a source is no script. -/
inductive Problem where
  /-- This token fits nothing that could come here. -/
  | unexpected (extent : Extent)
  /-- This part cannot be what it turned out to be. -/
  | unfit (extent : Extent)
  /-- Something is missing at this place. -/
  | missing (place : Place)
  /-- The source ends too early. -/
  | ended

inductive Form where
  /-- It cannot be assigned to. -/
  | value
  | call
  | member
  /-- A member that may be left out. -/
  | optionalMember
  | name
  /-- An array or an object, which can be a pattern. -/
  | pattern
  /-- An assignment, which can be a pattern with a default. -/
  | assignment
deriving DecidableEq

structure Operand where
  form : Form
  /-- Whether it is in parentheses. -/
  grouped : Bool
  /-- What stands for it if an arrow follows that must not. -/
  anchor : Extent

/-- A part that is wrong: what is shown of it, and the byte after it. -/
structure Fault where
  shown : Extent
  stop : Nat

/-- What is wrong with what is being read, under the readings that are still open. -/
structure Cover where
  /-- What is wrong with it as an expression. -/
  expression : Option Fault
  /-- What is wrong with it as the target of an assignment. -/
  target : Option Extent
  /-- What is wrong with it as the parameters of an arrow function. -/
  parameters : Option Extent
  /-- Whether it can only bind names. -/
  binds : Bool

namespace Cover

def fresh (binds : Bool) : Cover := ⟨none, none, none, binds⟩

def cleared (cover : Cover) : Cover :=
  { cover with expression := none, target := none }

/-- What is wrong with it as an expression, as long as it can be one. -/
def openFault? (cover : Cover) : Option Fault :=
  if cover.binds then none else cover.expression

/-- What was noted first, of notes about earlier parts and notes about a later one. -/
def join (earlier later : Cover) : Cover :=
  { later with
    expression := earlier.expression <|> later.expression
    target := earlier.target <|> later.target }

end Cover

/-- An operator between operands, which is applied after all others so far. -/
structure Joint where
  operator : String
  /-- What stands for the whole. -/
  anchor : Extent
  /-- What stands for the operand to the left. -/
  left : Extent

/-- How operators have been used in an expression so far. -/
structure Chain where
  joint : Option Joint
  /-- Whether `&&` or `||` was used. -/
  logical : Bool
  /-- Whether `??` was used. -/
  fallback : Bool

def Chain.empty : Chain := ⟨none, false, false⟩

/-- Where members can follow an operand. -/
inductive Link where
  /-- After `new`, where parentheses are not taken. -/
  | construct
  /-- Before any call. -/
  | plain
  /-- After a call. -/
  | called
  /-- After an optional point. -/
  | optional
deriving DecidableEq

/-- A list in brackets: what was noted about its earlier parts, and its opening bracket. -/
structure Listing where
  held : Cover
  opening : Extent

inductive ArgumentPlace where
  | call
  /-- After the word `async`, where they can turn out to be parameters. -/
  | async
  /-- After the word `await`, where they can turn out to be an expression. -/
  | await
deriving DecidableEq

structure LoopBindings where
  /-- Whether the word `await` is before the head. -/
  isAwait : Bool
  /-- The word before the bindings. -/
  keyword : String
  /-- The first binding. -/
  first : Extent
  /-- The end of the first binding that has a value. -/
  valued : Option Extent
  /-- Whether there are several. -/
  several : Bool
  /-- Whether one of them is a pattern. -/
  patterned : Bool

inductive Level where
  /-- Outside of all braces. -/
  | top
  | block
  | switchCase
deriving DecidableEq

inductive Clause where
  /-- A branch, where a function can be declared. -/
  | branch
  | loop
deriving DecidableEq

/-- What the rest of the source has to start with. -/
inductive Goal where
  | sign (text : String)
  | word (name : String)
  /-- The end of the source. -/
  | finish
  /-- Notes what kind of operand was read. -/
  | settle (form : Form) (anchor : Extent)
  -- Statements.
  | statements (level : Level)
  | item (level : Level)
  | clause (kind : Clause)
  | block
  | endOfStatement
  | optionalSemicolon
  | elseBranch
  | handlers
  | catchParameter
  | finallyClause
  | switchCases
  | declarations (constant : Bool)
  | initializer (binding : Extent) (needsValue : Bool)
  | moreDeclarations (constant : Bool)
  -- Heads of loops.
  | loopHead
  | loopStart (isAwait : Bool)
  | loopBinding (bindings : LoopBindings) (binding : Extent) (patterned : Bool)
  | loopMore (bindings : LoopBindings)
  | loopTarget (isAwait : Bool) (start : Extent) (outer : Cover)
  | loopRest
  | expressionUnless (sign : String)
  -- Bindings.
  | binding
  | bindingTarget
  | bound (outer : Cover)
  | defaultValue
  -- Functions and classes.
  | function (needsName : Bool)
  | parameters
  | parameterList
  | moreParameters
  | restParameter
  | method
  | classHead (needsName : Bool)
  | classTail
  | classMembers
  | classMember
  | classElement
  | elementTail (name : Extent)
  | memberName
  | propertyName
  -- Expressions.
  | expression (inAllowed : Bool)
  | checked (outer : Cover)
  | series (inAllowed : Bool)
  | candidate (inAllowed : Bool)
  | afterCandidate (inAllowed several : Bool) (held : Cover) (start : Extent)
  | afterRest (ellipsis start : Extent) (held : Cover)
  | assignment (inAllowed : Bool)
  | operator (inAllowed : Bool) (start : Extent) (chain : Chain)
  | assigned (start : Extent) (compound : Bool)
  | term
  | operand
  | signed (start : Extent)
  | updated (start : Extent)
  | postfixed (start : Extent)
  -- Operands.
  | primary
  | access (link : Link)
  | newArguments (start : Extent)
  | importRest
  | arguments (place : ArgumentPlace) (held : Cover)
  | argument (place : ArgumentPlace) (held : Cover) (start : Extent)
  | asyncHead (word : Extent) (outer : Cover)
  | group (outer : Cover)
  | template (opening : Extent) (tagged : Bool)
  | templateEnd (inner : Extent) (tagged : Bool)
  -- Arrays and objects.
  | elements (listing : Listing)
  | part (start : Extent)
  | spreadElement (ellipsis : Extent)
  | moreElements (listing : Listing)
  | members (listing : Listing)
  | memberTail (name : Extent)
  | methodTail (start : Extent)
  | initialized (name : Extent)
  | spreadMember (start : Extent)
  | moreMembers (listing : Listing)
  -- Imports and exports.
  | importClause
  | exportClause
  | importNames
  | exportNames (wrong : Option Extent)
  | moreNames (list : Goal)
  | exportSource (wrong : Option Extent)
  | moduleName
  | importAttributes
  -- Markup in expressions.
  | tag
  | attributes
  | attributeValue
  | children
  | childEnd
  | markupEnd (start : Extent)

/-- What a goal keeps until it is met: notes about earlier parts, or about what is around it. -/
def Goal.kept? : Goal → Option Cover
  | checked outer | bound outer | loopTarget _ _ outer | asyncHead _ outer | group outer =>
    some outer
  | afterCandidate _ _ held _ | afterRest _ _ held | arguments _ held | argument _ held _ =>
    some held
  | elements listing | moreElements listing | members listing | moreMembers listing =>
    some listing.held
  | _ => none

end SnippetReview.Script
