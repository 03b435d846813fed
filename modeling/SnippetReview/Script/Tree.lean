import SnippetReview.Text.Utf8

/-!
Syntax trees as a parser leaves them: every node knows where it stands in the source, whether the
parser had to make it up, and whether something in it is wrong.

Places are counted in bytes of the source. Nothing here relies on them fitting the source or each
other.
-/

set_option autoImplicit false

namespace SnippetReview

/-- Where a node stands: its first byte, the byte after its last one, and the row and the byte
column of its start, both from zero. -/
structure Span where
  start : Nat
  stop : Nat
  row : Nat
  column : Nat
deriving DecidableEq

/-- A node of a syntax tree. A missing node stands for something that is not in the source. -/
inductive SyntaxTree where
  | node (span : Span) (isMissing hasError : Bool) (children : List SyntaxTree)

instance : Inhabited SyntaxTree := ⟨.node ⟨0, 0, 0, 0⟩ false false []⟩

namespace SyntaxTree

def span : SyntaxTree → Span
  | node span _ _ _ => span

def isMissing : SyntaxTree → Bool
  | node _ isMissing _ _ => isMissing

def hasError : SyntaxTree → Bool
  | node _ _ hasError _ => hasError

def children : SyntaxTree → List SyntaxTree
  | node _ _ _ children => children

def descend? : SyntaxTree → List Nat → Option SyntaxTree
  | tree, [] => some tree
  | tree, index :: path => tree.children[index]?.bind fun child => child.descend? path

mutual

/-- The path to the first problem: it goes down through first children with a problem in them, and
ends at a missing node or where no child has a problem. -/
def problemPath : SyntaxTree → List Nat
  | node _ _ _ children => problemPathAmong 0 children

/-- The path of `problemPath` among children, the first of which has the given index. -/
def problemPathAmong (index : Nat) : List SyntaxTree → List Nat
  | [] => []
  | child :: rest =>
    if child.isMissing then [index]
    else if child.hasError then index :: child.problemPath
    else problemPathAmong (index + 1) rest

end

mutual

def firstProblem : SyntaxTree → SyntaxTree
  | node span isMissing hasError children =>
    (firstProblemAmong children).getD (node span isMissing hasError children)

def firstProblemAmong : List SyntaxTree → Option SyntaxTree
  | [] => none
  | child :: rest =>
    if child.isMissing then some child
    else if child.hasError then some child.firstProblem
    else firstProblemAmong rest

end

mutual

/-- How many calls of itself the search for the first problem of a tree is in when it ends. A
missing node is found from the node above it. -/
def searchDepth : SyntaxTree → Nat
  | node _ _ _ children => searchDepthAmong children + 1

def searchDepthAmong : List SyntaxTree → Nat
  | [] => 0
  | child :: rest =>
    if child.isMissing then 0
    else if child.hasError then child.searchDepth
    else searchDepthAmong rest

end

def firstLeaf : SyntaxTree → SyntaxTree
  | node span isMissing hasError [] => node span isMissing hasError []
  | node _ _ _ (child :: _) => child.firstLeaf

def leafPath : SyntaxTree → List Nat
  | node _ _ _ [] => []
  | node _ _ _ (child :: _) => 0 :: child.leafPath

end SyntaxTree

end SnippetReview
