import ProseLint.Text.Span

/-!
# Syntax trees

One type holds every node of a program. The kinds of node that the rule tells apart have a
constructor of their own; every other kind is a `construct`, which only has its kind, its span and
its children in the order in which they are visited. `children` is the view through which whole
trees are walked, and `preorder` lists a tree's nodes, each before its descendants.
-/

namespace ProseLint.Syntax

open ProseLint.Text (Span)

/-- How a member access or call hangs on what stands before it.

In an optional chain such as `a?.b(c)` every access and every call, whether its own link is `?.` or
not, is a node of the chain that holds the access or call. The two are one node here, and that it is
a node of a chain is said by its link. This loses nothing: the outer node has the span of the inner
one, no children besides it, and nothing to report. An access in a chain names its property and a
call in a chain has its callee and arguments inspected as outside chains, so no definition that
classifies, exempts or reports asks for the link. It is there for the parser, which goes on with a
chain in other ways than with other expressions, and for the survey of calls. -/
inductive Link where
  /-- An access or call outside optional chains. -/
  | plain
  /-- Part of an optional chain; `marked` tells whether the `?.` stands on this very link. -/
  | chained (marked : Bool)
deriving Repr, DecidableEq, Inhabited

namespace Link

/-- Is the access or call part of an optional chain? -/
def isChained : Link → Bool
  | plain => false
  | chained _ => true

end Link

/-- The operators that choose between their operands. -/
inductive LogicalOp where
  | or
  | and
  | coalesce
deriving Repr, DecidableEq, Inhabited

/-- The property of an access, by the way it is named; `α` is the type of expressions. -/
inductive Selector (α : Type) where
  /-- The word behind a dot. -/
  | name (span : Span) (name : String)
  /-- A private name behind a dot, without its `#`. -/
  | privateName (span : Span) (name : String)
  /-- An expression in brackets. -/
  | computed (span : Span) (inner : α)
deriving Repr, Inhabited

namespace Selector

/-- The expressions in a selector. -/
def parts {α : Type} : Selector α → List α
  | name .. | privateName .. => []
  | computed _ inner => [inner]

end Selector

/-- The kinds of node that are no more to the rule than the children they hold. -/
inductive Construct where
  -- literals and keywords
  | number | bigint | boolean | null | regex | this | superKeyword | importKeyword | metaProperty
  -- expressions
  | array | hole | object | function | arrow | classBody | unary | update | binary | conditional
  | sequence | instantiation | taggedTemplate | yield | await | superMember | missing
  -- members of objects and classes
  | property | shorthand | coverDefault | method | getter | setter | field | staticBlock
  | typeMember
  -- patterns
  | arrayPattern | objectPattern | keyedPattern | shorthandPattern | defaulted | rest | parameter
  | invalidPattern
  -- markup
  | element | openingTag | closingTag | tagName | attribute | spreadAttribute | spreadChild
  | markupText | markupString | container
  -- type-level syntax
  | typeSyntax | typeArguments | typeParameters | cast | nonNull | typeApplication
  | typeAlias | interface | enum | enumMember | namespaceBlock | importAlias | exportAssignment
  -- statements
  | program | block | emptyStatement | variableDeclaration | bareDeclarator | ifStatement
  | forStatement | forInStatement | forOfStatement | whileStatement | doStatement | bareReturn
  | breakStatement | continueStatement | throwStatement | tryStatement | catchClause
  | switchStatement | switchCase
  | labelledStatement | withStatement | debuggerStatement | importDeclaration | exportDeclaration
  | specifier
deriving Repr, DecidableEq, Inhabited

/-- A node of a syntax tree. -/
inductive Node where
  /-- A name used as an expression or bound by a pattern. -/
  | identifier (span : Span) (name : String)
  /-- A string literal with its decoded value; the span holds the quotes. -/
  | string (span : Span) (value : String)
  /-- A template: the raw chunks of text and, between them, the interpolated expressions. -/
  | template (span : Span) (chunks : List String) (holes : List Node)
  | paren (span : Span) (inner : Node)
  /-- An assignment with any operator. -/
  | assign (span : Span) (operator : String) (target value : Node)
  | logical (span : Span) (operator : LogicalOp) (left right : Node)
  /-- A call, with its type arguments where types may be written. -/
  | call (span : Span) (link : Link) (callee : Node) (args types : List Node)
  | member (span : Span) (link : Link) (object : Node) (property : Selector Node)
  /-- A plain key. -/
  | propertyName (span : Span) (name : String)
  /-- A private name as a key, without its `#`. -/
  | privateName (span : Span) (name : String)
  /-- An expression in brackets, as a key. -/
  | computed (span : Span) (inner : Node)
  | spread (span : Span) (inner : Node)
  /-- A `return` with a value. -/
  | returns (span : Span) (value : Node)
  /-- A variable declarator with an initializer. -/
  | declarator (span : Span) (target init : Node)
  | statement (span : Span) (expression : Node)
  | construct (kind : Construct) (span : Span) (members : List Node)
deriving Repr, Inhabited

namespace Node

/-- The part of the source that the node covers. -/
def span : Node → Span
  | identifier s _ | string s _ | template s _ _ | paren s _ | assign s _ _ _ | logical s _ _ _
  | call s _ _ _ _ | member s _ _ _ | propertyName s _ | privateName s _ | computed s _ | spread s _
  | returns s _ | declarator s _ _ | statement s _ | construct _ s _ => s

/-- The nodes directly below a node, in the order in which they are visited. -/
def children : Node → List Node
  | identifier .. | string .. | propertyName .. | privateName .. => []
  | template _ _ holes => holes
  | paren _ inner | computed _ inner | spread _ inner => [inner]
  | assign _ _ target value => [target, value]
  | logical _ _ left right => [left, right]
  | call _ _ callee args types => callee :: (args ++ types)
  | member _ _ object property => object :: property.parts
  | returns _ value => [value]
  | declarator _ target init => [target, init]
  | statement _ expression => [expression]
  | construct _ _ members => members

theorem sizeOf_lt_of_mem_children {n c : Node} (h : c ∈ n.children) : sizeOf c < sizeOf n := by
  cases n with
  | identifier | string | propertyName | privateName => simp [children] at h
  | template s cs holes =>
    have := List.sizeOf_lt_of_mem (show c ∈ holes from h)
    simp only [template.sizeOf_spec]; omega
  | construct k s members =>
    have := List.sizeOf_lt_of_mem (show c ∈ members from h)
    simp only [construct.sizeOf_spec]; omega
  | call s l callee args types =>
    simp only [children, List.mem_cons, List.mem_append] at h
    rcases h with rfl | h | h
    · simp only [call.sizeOf_spec]; omega
    · have := List.sizeOf_lt_of_mem h
      simp only [call.sizeOf_spec]; omega
    · have := List.sizeOf_lt_of_mem h
      simp only [call.sizeOf_spec]; omega
  | member s l object property =>
    cases property with
    | name | privateName =>
      simp only [children, Selector.parts, List.mem_singleton] at h
      subst h
      simp only [member.sizeOf_spec]; omega
    | computed s' inner =>
      simp only [children, Selector.parts, List.mem_cons, List.not_mem_nil, or_false] at h
      rcases h with rfl | rfl <;> simp only [member.sizeOf_spec, Selector.computed.sizeOf_spec] <;>
        omega
  | paren | computed | spread | returns | statement =>
    simp only [children, List.mem_singleton] at h
    subst h
    simp only [paren.sizeOf_spec, computed.sizeOf_spec, spread.sizeOf_spec, returns.sizeOf_spec,
      statement.sizeOf_spec]
    omega
  | assign | logical | declarator =>
    simp only [children, List.mem_cons, List.not_mem_nil, or_false] at h
    simp only [assign.sizeOf_spec, logical.sizeOf_spec, declarator.sizeOf_spec]
    rcases h with rfl | rfl <;> omega

/-- The nodes of the tree, each before its descendants and siblings in visiting order. -/
def preorder (n : Node) : List Node :=
  n :: n.children.attach.flatMap fun ⟨c, _⟩ => preorder c
termination_by sizeOf n
decreasing_by exact sizeOf_lt_of_mem_children ‹_›

theorem preorder_eq (n : Node) : n.preorder = n :: n.children.flatMap preorder := by
  rw [preorder]
  simp [List.flatMap_subtype, List.unattach_attach]

/-- The expression inside any number of parentheses. -/
def unparenthesized : Node → Node
  | paren _ inner => inner.unparenthesized
  | n => n

end Node

end ProseLint.Syntax
