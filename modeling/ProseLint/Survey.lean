import ProseLint.Violation

/-!
# Surveys of a program

Lists of what the rule sees in a program besides violations: its calls with their exemption, and the
expressions that stand as statements.
-/

namespace ProseLint

open ProseLint.Syntax (Node)
open ProseLint.Text (Span)

/-- A call as the rule sees it. -/
structure CallSite where
  span : Span
  /-- Is the call part of an optional chain? -/
  optional : Bool
  exempt : Bool
deriving Repr, DecidableEq, Inhabited

/-- The call that a node is. -/
def callSite? (exemptions : Exemptions) : Node → Option CallSite
  | .call span link callee _ _ => some ⟨span, link.isChained, exemptions.exempt callee⟩
  | _ => none

/-- The calls of a program, each before those inside it. -/
def callSites (exemptions : Exemptions) (program : Node) : List CallSite :=
  program.preorder.filterMap (callSite? exemptions)

/-- The expressions that stand as statements, in visiting order. What is inside such an expression
is not listed. -/
def statementExpressions (n : Node) : List Node :=
  match n with
  | .statement _ expression => [expression]
  | n => n.children.attach.flatMap fun ⟨c, _⟩ => statementExpressions c
termination_by sizeOf n
decreasing_by exact Node.sizeOf_lt_of_mem_children ‹_›

end ProseLint
