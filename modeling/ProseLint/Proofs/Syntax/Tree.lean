import Mathlib.Data.List.Basic
import ProseLint.Syntax.Node

/-!
# Walking syntax trees

A tree is walked through `children`, so a kind of node whose children were incomplete there would be
passed over by every walk. `listing` names the parts of every kind of node once more, one
constructor after the other and without `children`; that `preorder` gives the same list
(`preorder_eq_listing`) says that a walk comes by every part of every node, in order and as often as
it occurs. Facts about whole trees are proved by induction over `children` (`childrenInduction`).
-/

namespace ProseLint.Syntax.Node

open ProseLint.Text (Span)

/-- What holds of a node whenever it holds of its children holds of every node. -/
@[elab_as_elim]
theorem childrenInduction {P : Node → Prop} (step : ∀ n, (∀ c ∈ n.children, P c) → P n) (n : Node) :
    P n :=
  step n fun c hc =>
    have := sizeOf_lt_of_mem_children hc
    childrenInduction step c
termination_by sizeOf n

/-- What holds of every node but parentheses, and of these if it holds inside them, holds of every
node. -/
@[elab_as_elim]
theorem parenInduction {P : Node → Prop} (parens : ∀ s inner, P inner → P (paren s inner))
    (other : ∀ n, (∀ s inner, n ≠ paren s inner) → P n) (n : Node) : P n := by
  induction n using childrenInduction with
  | step n ih =>
    cases n with
    | paren s inner => exact parens s inner (ih inner List.mem_cons_self)
    | _ => exact other _ (by simp)

mutual

/-- The node and all its parts at any depth, each node before its parts. -/
def listing : Node → List Node
  | identifier s name => [identifier s name]
  | string s value => [string s value]
  | template s chunks holes => template s chunks holes :: listings holes
  | paren s inner => paren s inner :: listing inner
  | assign s operator target value =>
    assign s operator target value :: (listing target ++ listing value)
  | logical s operator left right =>
    logical s operator left right :: (listing left ++ listing right)
  | call s link callee args types =>
    call s link callee args types :: (listing callee ++ listings args ++ listings types)
  | member s link object property =>
    member s link object property :: (listing object ++ selectorListing property)
  | propertyName s name => [propertyName s name]
  | privateName s name => [privateName s name]
  | computed s inner => computed s inner :: listing inner
  | spread s inner => spread s inner :: listing inner
  | returns s value => returns s value :: listing value
  | declarator s target init => declarator s target init :: (listing target ++ listing init)
  | statement s expression => statement s expression :: listing expression
  | construct kind s members => construct kind s members :: listings members

/-- The listings of some nodes, one after the other. -/
def listings : List Node → List Node
  | [] => []
  | n :: ns => listing n ++ listings ns

/-- The listing of the expression in a selector. -/
def selectorListing : Selector Node → List Node
  | .name .. | .privateName .. => []
  | .computed _ inner => listing inner

end

theorem listings_eq_flatMap (ns : List Node) : listings ns = ns.flatMap listing := by
  induction ns with
  | nil => rfl
  | cons n ns ih => rw [listings, ih, List.flatMap_cons]

theorem selectorListing_eq_flatMap (s : Selector Node) :
    selectorListing s = s.parts.flatMap listing := by
  cases s <;> simp [selectorListing, Selector.parts]

theorem listing_eq (n : Node) : n.listing = n :: n.children.flatMap listing := by
  cases n <;>
    simp [listing, children, listings_eq_flatMap, selectorListing_eq_flatMap]

/-- A walk comes by exactly the parts of a tree that its constructors hold. -/
theorem preorder_eq_listing (n : Node) : n.preorder = n.listing := by
  induction n using childrenInduction with
  | step n ih =>
    rw [preorder_eq, listing_eq, List.flatMap_congr ih]

/-! ## Literals -/

/-- Is the node a string or a template? -/
def isLiteral : Node → Bool
  | string .. | template .. => true
  | _ => false

/-- The spans of the strings and templates of a tree, as often as they occur. -/
def literalSpans (n : Node) : List Span := (n.preorder.filter isLiteral).map span

theorem literalSpans_eq (n : Node) :
    n.literalSpans = ([n].filter isLiteral).map span ++ n.children.flatMap literalSpans := by
  rw [literalSpans, preorder_eq, ← List.singleton_append, List.filter_append, List.map_append,
    List.filter_flatMap, List.map_flatMap]
  rfl

end ProseLint.Syntax.Node
