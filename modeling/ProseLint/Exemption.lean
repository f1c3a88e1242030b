import ProseLint.Syntax.Node
import ProseLint.Text.Pieces

/-!
# Exempt calls

The arguments of some calls are left alone: those of diagnostics, assertions and tests, and those
that the user excludes by pattern. A pattern without a dot is a single name, which may be the
callee, the object of an access or its property. A pattern with dots is the exact chain of names
from the base of the callee to its last property. Parentheses and optional chaining make no
difference.
-/

namespace ProseLint

open ProseLint.Syntax (Node Selector)

namespace Callee

/-- The name that an expression is. -/
def name? (n : Node) : Option String :=
  match n.unparenthesized with
  | .identifier _ name => some name
  | _ => none

/-- An access of a property: the object and the property. -/
structure Access where
  object : Node
  property : Selector Node

/-- The access that an expression is, plain or in an optional chain. -/
def access? (n : Node) : Option Access :=
  match n.unparenthesized with
  | .member _ _ object property => some ⟨object, property⟩
  | _ => none

/-- The name of the accessed property: `a.b`, `a.#b` and `a[b]` all name `b`. -/
def Access.name? (a : Access) : Option String :=
  match a.property with
  | .name _ name | .privateName _ name => some name
  | .computed _ inner => Callee.name? inner

end Callee

/-- A pattern of calls to leave alone. -/
inductive Pattern where
  /-- A single name: the callee, the object of an access, or its property. -/
  | token (name : String)
  /-- The chain of names from the base of the callee to its last property. -/
  | path (base : String) (properties : List String)
deriving Repr, DecidableEq, Inhabited

namespace Pattern

/-- The pattern that a text stands for. -/
def ofString (text : String) : Pattern :=
  match Text.stringPieces '.' text with
  | base :: property :: properties => .path base (property :: properties)
  | _ => .token text

/-- Do the properties, last first, lead from the expression down to the base? -/
def leadsTo (base : String) : List String → Node → Bool
  | [], n => Callee.name? n == some base
  | p :: ps, n =>
    match Callee.access? n with
    | some a => a.name? == some p && leadsTo base ps a.object
    | none => false

/-- Does the pattern cover calls of this callee? -/
def covers (pattern : Pattern) (callee : Node) : Bool :=
  match pattern with
  | .token name =>
    Callee.name? callee == some name ||
    match Callee.access? callee with
    | some a => Callee.name? a.object == some name || a.name? == some name
    | none => false
  | .path base properties => leadsTo base properties.reverse callee

end Pattern

/-- Functions that are always exempt when called by name. -/
def exemptFunctions : List String := ["invariant", "suite", "test", "assert"]

/-- Objects whose methods are always exempt. -/
def exemptObjects : List String := ["console", "assert"]

/-- Is the callee one of the diagnostics, assertions and tests that are always exempt? -/
def isBuiltinExempt (callee : Node) : Bool :=
  ((Callee.name? callee).map exemptFunctions.contains).getD false ||
  match Callee.access? callee with
  | some a => ((Callee.name? a.object).map exemptObjects.contains).getD false
  | none => false

/-- The user's patterns of calls to leave alone, in the order given. -/
structure Exemptions where
  patterns : List Pattern := []
deriving Repr, DecidableEq, Inhabited

namespace Exemptions

/-- The exemptions that texts stand for. -/
def ofStrings (texts : List String) : Exemptions := ⟨texts.map Pattern.ofString⟩

/-- Are the arguments of calls of this callee left alone? -/
def exempt (e : Exemptions) (callee : Node) : Bool :=
  isBuiltinExempt callee || e.patterns.any fun p => p.covers callee

end Exemptions

end ProseLint
