import ProseLint.Syntax.Node

/-!
# Expressions read as patterns

The left side of an assignment and the parameters of an arrow function are read as expressions
before what follows shows that they are patterns. `asPattern?` and `asTarget?` turn the tree of such
an expression into the tree of the pattern.
-/

namespace ProseLint.Syntax.Node

/-- What a pattern is for. -/
inductive PatternUse where
  /-- Its names are bound, as by a parameter. -/
  | binding
  /-- Its parts are assigned to. -/
  | assignment
deriving Repr, DecidableEq

/-- Nodes that may stand as a part of a pattern that is assigned to. -/
def isAssignable : Node → Bool
  | identifier .. | member _ .plain _ _ | call _ .plain _ _ _ | string .. | template ..
  | paren .. => true
  | construct k _ _ =>
    [.superMember, .instantiation, .number, .bigint, .boolean, .null, .regex, .function, .classBody,
      .cast].contains k
  | _ => false

/-- Nodes that are patterns already. -/
def isPattern : Node → Bool
  | identifier .. => true
  | construct k _ _ =>
    [.arrayPattern, .objectPattern, .defaulted, .rest, .parameter, .hole].contains k
  | _ => false

/-- The pattern that an expression stands for. What can be no pattern becomes an invalid pattern
without parts; `none` if an object literal holds a method. -/
def asPattern? (use : PatternUse) (n : Node) : Option Node :=
  match n with
  | spread s inner => return construct .rest s [← inner.asPattern? use]
  | construct .array s members => do
    return construct .arrayPattern s (← members.attach.mapM fun ⟨m, _⟩ => m.asPattern? use)
  | construct .object s members => do
    return construct .objectPattern s (← members.attach.mapM fun ⟨m, _⟩ => m.asPattern? use)
  | construct .property s [key, value] =>
    return construct .keyedPattern s [key, ← value.asPattern? use]
  | construct .shorthand s members => some (construct .shorthandPattern s members)
  | construct .coverDefault s members => some (construct .shorthandPattern s members)
  | construct .method _ _ | construct .getter _ _ | construct .setter _ _ => none
  | assign s "=" target value => some (construct .defaulted s [target, value])
  | n =>
    if n.isPattern || (use == .assignment && n.isAssignable) then some n
    else some (construct .invalidPattern n.span [])
termination_by sizeOf n

/-- The target that the expression left of an assignment stands for; `none` if it can be none. With
an operator other than `=`, patterns are no targets. -/
def asTarget? (operator : String) (n : Node) : Option Node :=
  match n with
  | construct .array _ _ | construct .object _ _ =>
    if operator == "=" then n.asPattern? .assignment else none
  | identifier .. | member .. | paren .. | call _ (.chained _) _ _ _ => some n
  | construct k _ _ =>
    if [.superMember, .cast, .nonNull, .typeApplication].contains k then some n else none
  | _ => none

/-- Is the node an arrow function, not in parentheses? -/
def isArrow : Node → Bool
  | construct .arrow _ _ => true
  | _ => false

/-- Does an access or call behind this node belong to an optional chain? -/
def inChain : Node → Bool
  | member _ link _ _ | call _ link _ _ _ => link.isChained
  | construct .nonNull _ [inner] => inner.inChain
  | _ => false

end ProseLint.Syntax.Node
