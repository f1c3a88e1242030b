import ProseLint.Proofs.Violation.Slots

/-!
# Parentheses and optional chains make no difference

`Node.bare` takes away all parentheses of a tree and turns every link of an optional chain into a
plain one, at any depth (`Syntax.Link` tells how a link stands for a node of a chain). The rule
finds the same violations in the bare tree (`violations_bare`): names and accesses are recognised
alike, so the same calls are exempt, values are classified alike, and parentheses themselves hold no
slots.
-/

namespace ProseLint

open ProseLint.Syntax (Node Selector)

namespace Syntax.Node

mutual

/-- The tree without parentheses and optional chains. -/
def bare : Node → Node
  | identifier s name => identifier s name
  | string s value => string s value
  | template s chunks holes => template s chunks (bares holes)
  | paren _ inner => bare inner
  | assign s operator target value => assign s operator (bare target) (bare value)
  | logical s operator left right => logical s operator (bare left) (bare right)
  | call s _ callee args types => call s .plain (bare callee) (bares args) (bares types)
  | member s _ object property => member s .plain (bare object) (bareSelector property)
  | propertyName s name => propertyName s name
  | privateName s name => privateName s name
  | computed s inner => computed s (bare inner)
  | spread s inner => spread s (bare inner)
  | returns s value => returns s (bare value)
  | declarator s target init => declarator s (bare target) (bare init)
  | statement s expression => statement s (bare expression)
  | construct kind s members => construct kind s (bares members)

/-- The trees without parentheses and optional chains. -/
def bares : List Node → List Node
  | [] => []
  | n :: ns => bare n :: bares ns

/-- The selector without parentheses and optional chains in its expression. -/
def bareSelector : Selector Node → Selector Node
  | .name s name => .name s name
  | .privateName s name => .privateName s name
  | .computed s inner => .computed s (bare inner)

end

theorem bares_eq_map (ns : List Node) : bares ns = ns.map bare := by
  induction ns with
  | nil => rfl
  | cons n ns ih => rw [bares, ih, List.map_cons]

theorem parts_bareSelector (s : Selector Node) : (bareSelector s).parts = s.parts.map bare := by
  cases s <;> rfl

/-- Below a node that is no pair of parentheses, the bare tree has the bare children. -/
theorem children_bare {n : Node} (h : ∀ s inner, n ≠ paren s inner) :
    n.bare.children = n.children.map bare := by
  cases n with
  | paren s inner => exact absurd rfl (h s inner)
  | _ => simp [bare, children, bares_eq_map, parts_bareSelector]

end Syntax.Node

open ProseLint.Syntax.Node (bares_eq_map children_bare)

/-! ## Callees -/

namespace Callee

/-- The access without parentheses and optional chains. -/
def Access.bare (a : Access) : Access := ⟨a.object.bare, Node.bareSelector a.property⟩

theorem name?_bare (n : Node) : name? n.bare = name? n := by
  induction n using Node.parenInduction with
  | parens s inner ih => exact ih
  | other n hn =>
    cases n with
    | paren s inner => exact absurd rfl (hn s inner)
    | _ => rfl

theorem access?_bare (n : Node) : access? n.bare = (access? n).map Access.bare := by
  induction n using Node.parenInduction with
  | parens s inner ih => exact ih
  | other n hn =>
    cases n with
    | paren s inner => exact absurd rfl (hn s inner)
    | _ => rfl

theorem Access.name?_bare (a : Access) : a.bare.name? = a.name? := by
  obtain ⟨object, property⟩ := a
  cases property with
  | name | privateName => rfl
  | computed s inner => exact Callee.name?_bare inner

end Callee

open Callee

theorem Pattern.leadsTo_bare (base : String) (properties : List String) (n : Node) :
    leadsTo base properties n.bare = leadsTo base properties n := by
  induction properties generalizing n with
  | nil => rw [leadsTo, leadsTo, name?_bare]
  | cons p ps ih =>
    rw [leadsTo, leadsTo, access?_bare]
    cases access? n with
    | none => rfl
    | some a =>
      show (a.bare.name? == some p && leadsTo base ps a.object.bare) = _
      rw [Access.name?_bare, ih]

theorem Pattern.covers_bare (p : Pattern) (callee : Node) :
    p.covers callee.bare = p.covers callee := by
  cases p with
  | token name =>
    simp only [covers, name?_bare, access?_bare]
    cases access? callee with
    | none => rfl
    | some a =>
      show _ = (name? callee == some name || (name? a.object == some name || a.name? == some name))
      rw [← name?_bare a.object, ← Access.name?_bare a]
      rfl
  | path base properties => exact leadsTo_bare base properties.reverse callee

theorem isBuiltinExempt_bare (callee : Node) :
    isBuiltinExempt callee.bare = isBuiltinExempt callee := by
  simp only [isBuiltinExempt, name?_bare, access?_bare]
  cases access? callee with
  | none => rfl
  | some a => simp only [Option.map_some, Access.bare, name?_bare]

theorem Exemptions.exempt_bare (e : Exemptions) (callee : Node) :
    e.exempt callee.bare = e.exempt callee := by
  simp only [exempt, isBuiltinExempt_bare, Pattern.covers_bare]

/-! ## Values -/

theorem classify_bare (value : Node) : classify value.bare = classify value := by
  induction value using Node.parenInduction with
  | parens s inner ih => exact ih
  | other n hn =>
    cases n with
    | paren s inner => exact absurd rfl (hn s inner)
    | _ => rfl

theorem Slot.violation?_bare (position : Position) (value : Node) :
    violation? ⟨position, value.bare⟩ = violation? ⟨position, value⟩ := by
  simp only [violation?, classify_bare]

/-- A spread argument shows nothing, so that the arguments of a call can be taken as they are. Bare
arguments need this: parentheses are a value even where the bare argument is spread. -/
theorem filterMap_filter_isValue (args : List Node) :
    ((args.filter isValue).map (Slot.mk .callArgument)).filterMap Slot.violation? =
      args.filterMap fun a => Slot.violation? ⟨.callArgument, a⟩ := by
  rw [List.filterMap_map, List.filterMap_filter]
  refine List.filterMap_congr fun a _ => ?_
  cases a <;> rfl

/-- A node that is no pair of parentheses has the same violations of its own in the bare tree. -/
theorem ownViolations_bare (e : Exemptions) {n : Node} (h : ∀ s inner, n ≠ .paren s inner) :
    ownViolations e n.bare = ownViolations e n := by
  unfold ownViolations
  cases n with
  | paren s inner => exact absurd rfl (h s inner)
  | assign | logical | returns | declarator =>
    simp only [Node.bare, slots, List.filterMap_cons, List.filterMap_nil, Slot.violation?_bare]
  | call s link callee args types =>
    simp only [Node.bare, slots, e.exempt_bare, bares_eq_map]
    split
    · rfl
    · rw [filterMap_filter_isValue, filterMap_filter_isValue, List.filterMap_map]
      exact List.filterMap_congr fun a _ => Slot.violation?_bare _ a
  | _ => rfl

/-- Parentheses and optional chains are invisible to the rule: it finds the same violations in the
same order without them. -/
theorem violations_bare (e : Exemptions) (program : Node) :
    violations e program.bare = violations e program := by
  rw [violations_eq_flatMap, violations_eq_flatMap]
  induction program using Node.childrenInduction with
  | step n ih =>
    by_cases hn : ∃ s inner, n = .paren s inner
    · obtain ⟨s, inner, rfl⟩ := hn
      rw [Node.preorder_eq (.paren s inner), List.flatMap_cons, Node.bare,
        ih inner List.mem_cons_self]
      simp [Node.children, ownViolations, slots]
    · have hn' : ∀ s inner, n ≠ .paren s inner := fun s inner h => hn ⟨s, inner, h⟩
      rw [Node.preorder_eq, Node.preorder_eq, List.flatMap_cons, List.flatMap_cons,
        ownViolations_bare e hn', children_bare hn', List.flatMap_map, List.flatMap_assoc,
        List.flatMap_assoc, List.flatMap_congr ih]

end ProseLint
