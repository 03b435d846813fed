import SnippetReview.Script.Definition
import SnippetReview.Script.Expression
import SnippetReview.Script.Loop
import SnippetReview.Script.Markup
import SnippetReview.Script.Module
import SnippetReview.Script.Primary
import SnippetReview.Script.Statement
import SnippetReview.Text.Basic

/-!
Parsing a script into a syntax tree. The tree holds no more than where the source goes wrong: a
root, and below it a node for the first problem if there is one.
-/

set_option autoImplicit false

namespace SnippetReview.Script

def Goal.meet : Goal → State → Step
  | sign text, s => s.expectSign text
  | word name, s => s.expectWord name
  | finish, s => if s.token = .finish then .ok s else s.unexpectedOperand
  | settle form anchor, s => .ok (s.settle form anchor)
  | statements level, s => Statement.statements level s
  | item level, s => Statement.item level s
  | clause kind, s => Statement.clause kind s
  | block, s => .ok (s.push [.sign "\x7b", .statements .block, .sign "\x7d"])
  | endOfStatement, s => Statement.endOfStatement s
  | optionalSemicolon, s => Statement.optionalSemicolon s
  | elseBranch, s => Statement.after "else" [.clause .branch] s
  | handlers, s => Statement.handlers s
  | catchParameter, s => Statement.catchParameter s
  | finallyClause, s => Statement.after "finally" [.block] s
  | switchCases, s => Statement.switchCases s
  | declarations constant, s => Statement.declarations constant s
  | initializer first needsValue, s => Statement.initializer first needsValue s
  | moreDeclarations constant, s => Statement.moreDeclarations constant s
  | loopHead, s => Loop.head s
  | loopStart isAwait, s => Loop.start isAwait s
  | loopBinding bindings first patterned, s => Loop.afterBinding bindings first patterned s
  | loopMore bindings, s => Loop.more bindings s
  | loopTarget isAwait start outer, s => Loop.target isAwait start outer s
  | loopRest, s => Loop.rest s
  | expressionUnless text, s => Loop.expressionUnless text s
  | binding, s => Definition.binding s
  | bindingTarget, s => Definition.bindingTarget s
  | bound outer, s => Definition.bound outer s
  | defaultValue, s => Definition.defaultValue s
  | function needsName, s => Definition.function needsName s
  | parameters, s => .ok (s.push [.sign "(", .parameterList])
  | parameterList, s => Definition.parameterList s
  | moreParameters, s => Definition.moreParameters s
  | restParameter, s => Definition.restParameter s
  | method, s => .ok (s.push [.parameters, .block])
  | classHead needsName, s => Definition.classHead needsName s
  | classTail, s => Definition.classTail s
  | classMembers, s => Definition.classMembers s
  | classMember, s => Definition.classMember s
  | classElement, s => Definition.classElement s
  | elementTail name, s => Definition.elementTail name s
  | memberName, s => Definition.memberName s
  | propertyName, s => Literal.propertyName s
  | expression inAllowed, s => Expression.expression inAllowed s
  | checked outer, s => Expression.checked outer s
  | series inAllowed, s => Expression.series inAllowed s
  | candidate inAllowed, s => Expression.candidate inAllowed s
  | afterCandidate inAllowed several held start, s =>
    Expression.afterCandidate inAllowed several held start s
  | afterRest ellipsis start held, s => Expression.afterRest ellipsis start held s
  | assignment inAllowed, s => Expression.assignment inAllowed s
  | operator inAllowed start chain, s => Expression.operator inAllowed start chain s
  | assigned start compound, s => Expression.assigned start compound s
  | term, s => Expression.term s
  | operand, s => Expression.operand s
  | signed start, s => Expression.signed start s
  | updated start, s => Expression.updated start s
  | postfixed start, s => Expression.postfixed start s
  | primary, s => Primary.primary s
  | access link, s => Primary.access link s
  | newArguments start, s => Primary.newArguments start s
  | importRest, s => Primary.importRest s
  | arguments place held, s => Primary.arguments place held s
  | argument place held start, s => Primary.argument place held start s
  | asyncHead start outer, s => Primary.asyncHead start outer s
  | group outer, s => Primary.group outer s
  | template opening tagged, s => Primary.template opening tagged s
  | templateEnd inner tagged, s => Primary.templateEnd inner tagged s
  | elements listing, s => Literal.elements listing s
  | part start, s => Literal.part start s
  | spreadElement ellipsis, s => Literal.spreadElement ellipsis s
  | moreElements listing, s => Literal.moreElements listing s
  | members listing, s => Literal.members listing s
  | memberTail name, s => Literal.memberTail name s
  | methodTail start, s => Literal.methodTail start s
  | initialized name, s => Literal.initialized name s
  | spreadMember start, s => Literal.spreadMember start s
  | moreMembers listing, s => Literal.moreMembers listing s
  | importClause, s => Module.importClause s
  | exportClause, s => Module.exportClause s
  | importNames, s => Module.importNames s
  | exportNames wrong, s => Module.exportNames wrong s
  | moreNames list, s => Module.moreNames list s
  | exportSource wrong, s => Module.exportSource wrong s
  | moduleName, s => Module.moduleName s
  | importAttributes, s => Module.importAttributes s
  | tag, s => Markup.tag s
  | attributes, s => Markup.attributes s
  | attributeValue, s => Markup.attributeValue s
  | children, s => Markup.children s
  | childEnd, s => Markup.childEnd s
  | markupEnd _, s => Markup.markupEnd s

def Goal.markupStart? : Goal → Option Extent
  | markupEnd start => some start
  | _ => none

/-- A problem inside markup is a problem with the sign that opens the outermost element. -/
def Problem.within (agenda : List Goal) (problem : Problem) : Problem :=
  match agenda.reverse.findSome? Goal.markupStart? with
  | some start => .unexpected start
  | none => problem

/-- What a goal has noted as wrong, unless something that goes on shows it to be right. -/
def Goal.noted? : Goal → Option Fault
  | exportNames wrong | moreNames (exportNames wrong) => wrong.map fun name => ⟨name, name.stop⟩
  | goal => goal.kept?.bind Cover.openFault?

/-- What a goal finds wrong if the goals before it cannot be met: an ellipsis that no parameter
follows. -/
def Goal.lost? : Goal → Option Fault
  | afterRest ellipsis _ _ => some ⟨ellipsis, ellipsis.stop⟩
  | _ => none

/-- What else is wrong if the first goal of the agenda is not met. -/
def State.openFaults (s : State) : List Fault :=
  s.agenda.filterMap Goal.noted? ++ s.agenda.tail.filterMap Goal.lost?

/-- A problem at a place, or what is wrong before it. Of what a token adjoins, the token is the
problem. -/
def Problem.orEarlier (problem : Problem) (fault : Fault) : Problem :=
  match problem with
  | unexpected found | unfit found =>
    if fault.stop < found.start.offset then unexpected fault.shown else problem
  | _ => problem

/-- The problem when the first goal of the agenda is not met, with regard to what is wrong before. A
part that turned out to be no expression need not be one. -/
def State.problem (s : State) (problem : Problem) : Problem :=
  let faults := match problem with
    | .unfit _ => s.openFaults
    | _ => s.cover.openFault?.toList ++ s.openFaults
  faults.foldl .orEarlier (problem.within s.agenda.tail)

/-- Meets the goals of the agenda one after the other, in at most the given number of steps. -/
def run : Nat → State → Option Problem
  | 0, _ => some .ended
  | fuel + 1, s =>
    match s.agenda with
    | [] => none
    | goal :: agenda =>
      match goal.meet { s with agenda := agenda } with
      | .ok s => run fuel s
      | .error problem => some (s.problem problem)

/-- Goals that are met for one token, at most. -/
def goalsPerToken : Nat := 64

def firstProblem? (source : List Char) : Option Problem :=
  run (goalsPerToken * (source.length + 2)) (State.start source)

/-- The node for a problem. The end of the source, where nothing can be shown, is a node without
text. -/
def Problem.node : Problem → SyntaxTree
  | unexpected extent | unfit extent =>
    .node ⟨extent.start.offset, extent.stop, extent.start.row, extent.start.column⟩ false true []
  | missing place => .node ⟨place.offset, place.offset, place.row, place.column⟩ true false []
  | ended => .node ⟨0, 0, 0, 0⟩ false true []

def parse (source : Text) : SyntaxTree :=
  match firstProblem? (source.map CodePoint.toChar) with
  | none => .node ⟨0, 0, 0, 0⟩ false false []
  | some problem => .node ⟨0, 0, 0, 0⟩ false true [problem.node]

end SnippetReview.Script
