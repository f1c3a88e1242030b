import ProseLint.English
import ProseLint.Exemption

/-!
# Violations

The rule looks at values in five positions: what is assigned, what stands right of `||`, `&&` and
`??`, the arguments of calls that are not exempt, what is returned, and what initializes a variable.
A value there that is a string or a template with English text is a violation. Violations come in
the order in which nodes are visited, each node before what is below it.
-/

namespace ProseLint

open ProseLint.Syntax (Node)
open ProseLint.Text (Span)

/-- Where a value stands. -/
inductive Position where
  | assignment
  | logical
  | callArgument
  | returned
  | initializer
deriving Repr, DecidableEq, Inhabited

namespace Position

/-- The words for a position. -/
def describe : Position → String
  | assignment => "assignment"
  | logical => "logical fallback"
  | callArgument => "call argument"
  | returned => "return value"
  | initializer => "variable initializer"

end Position

/-- What kind of value holds the text. -/
inductive ValueKind where
  | literal
  | template
deriving Repr, DecidableEq, Inhabited

namespace ValueKind

/-- The word for a kind of value. -/
def describe : ValueKind → String
  | literal => "literal"
  | template => "template"

end ValueKind

/-- English text found in a value. -/
structure Finding where
  /-- The literal with its quotes, or the whole template. -/
  span : Span
  kind : ValueKind
  /-- The value of the literal, or the first English chunk of the template. -/
  text : String
deriving Repr, DecidableEq, Inhabited

/-- English text in a position where the rule looks. -/
structure Violation extends Finding where
  position : Position
deriving Repr, DecidableEq, Inhabited

/-- What the rule says of every violation. -/
def ruleMessage : String := "English text in string literals is not allowed"

/-- The English text that a value holds: a literal by its value, a template by any of its chunks.
Parentheses around the value make no difference. -/
def classify (value : Node) : Option Finding :=
  match value.unparenthesized with
  | .string span text =>
    if English.looksEnglish text then some ⟨span, .literal, text⟩ else none
  | .template span chunks _ =>
    (chunks.find? English.looksEnglish).map (⟨span, .template, ·⟩)
  | _ => none

/-- Adds the violation that a value in a position is, if it is one. -/
def inspectValue (found : List Violation) (position : Position) (value : Node) : List Violation :=
  match classify value with
  | some finding => ⟨finding, position⟩ :: found
  | none => found

/-- Adds the violations among the arguments of a call; spread arguments are no values. -/
def inspectArguments (found : List Violation) : List Node → List Violation
  | [] => found
  | .spread _ _ :: args => inspectArguments found args
  | arg :: args => inspectArguments (inspectValue found .callArgument arg) args

/-- Adds the violations in the positions of one node, latest first. -/
def inspect (exemptions : Exemptions) (found : List Violation) : Node → List Violation
  | .assign _ _ _ value => inspectValue found .assignment value
  | .logical _ _ _ right => inspectValue found .logical right
  | .call _ _ callee args _ =>
    if exemptions.exempt callee then found else inspectArguments found args
  | .returns _ value => inspectValue found .returned value
  | .declarator _ _ init => inspectValue found .initializer init
  | _ => found

/-- Adds the violations of a node and of everything below it, latest first. -/
def collect (exemptions : Exemptions) (found : List Violation) (n : Node) : List Violation :=
  n.children.attach.foldl (fun found ⟨c, _⟩ => collect exemptions found c)
    (inspect exemptions found n)
termination_by sizeOf n
decreasing_by exact Node.sizeOf_lt_of_mem_children ‹_›

/-- The violations of a program in the order in which its nodes are visited. -/
def violations (exemptions : Exemptions) (program : Node) : List Violation :=
  (collect exemptions [] program).reverse

end ProseLint
