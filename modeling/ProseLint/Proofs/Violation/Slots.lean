import ProseLint.Proofs.Syntax.Tree
import ProseLint.Violation

/-!
# The slots where the rule looks

The rule walks a tree with the violations found so far in hand, and at each node adds those of the
node itself before it goes below. Here the same list is described without a walk: every node has a
list of slots, each a value in a position, and a value either shows English text or does not
(`Shows`). `violations_eq_filterMap_slots` says that the violations of a program are the slots of
all its nodes, in the order of `Node.listing`, that show English text.
-/

namespace ProseLint

open ProseLint.Syntax (Node)

/-- A value in a position where the rule looks. -/
structure Slot where
  position : Position
  value : Node

/-- Is the argument of a call a value of its own? -/
def isValue : Node → Bool
  | .spread .. => false
  | _ => true

/-- The slots of a node itself, without those of the nodes below it. -/
def slots (exemptions : Exemptions) : Node → List Slot
  | .assign _ _ _ value => [⟨.assignment, value⟩]
  | .logical _ _ _ right => [⟨.logical, right⟩]
  | .call _ _ callee args _ =>
    if exemptions.exempt callee then [] else (args.filter isValue).map (⟨.callArgument, ·⟩)
  | .returns _ value => [⟨.returned, value⟩]
  | .declarator _ _ init => [⟨.initializer, init⟩]
  | _ => []

/-- The value shows English text: a literal by its value, a template by its first English chunk, and
parentheses by what they hold. -/
inductive Shows : Node → Finding → Prop where
  | literal {span text} : English.looksEnglish text →
    Shows (.string span text) ⟨span, .literal, text⟩
  | template {span before chunk after holes} : English.looksEnglish chunk →
    (∀ c ∈ before, ¬ English.looksEnglish c) →
    Shows (.template span (before ++ chunk :: after) holes) ⟨span, .template, chunk⟩
  | paren {span inner finding} : Shows inner finding → Shows (.paren span inner) finding

/-- The violation that a slot is, if its value shows English text. -/
def Slot.violation? (s : Slot) : Option Violation := (classify s.value).map (⟨·, s.position⟩)

/-- The violations in the slots of a node itself. -/
def ownViolations (exemptions : Exemptions) (n : Node) : List Violation :=
  (slots exemptions n).filterMap Slot.violation?

/-- The slots of a node look at its children, at each no more than once. -/
theorem map_value_slots_sublist (e : Exemptions) (n : Node) :
    ((slots e n).map Slot.value).Sublist n.children := by
  cases n with
  | call span link callee args types =>
    simp only [slots, Node.children]
    split
    · exact List.nil_sublist _
    · rw [List.map_map]
      have hargs : (args.filter isValue).Sublist (args ++ types) :=
        List.filter_sublist.trans (List.sublist_append_left args types)
      simp [Function.comp_def, hargs]
  | assign | logical | returns | declarator => simp [slots, Node.children]
  | _ => exact List.nil_sublist _

/-! ## What is classified -/

@[simp] theorem classify_paren (span : Text.Span) (inner : Node) :
    classify (.paren span inner) = classify inner := rfl

theorem classify_eq_some_of_shows {value : Node} {f : Finding} (h : Shows value f) :
    classify value = some f := by
  induction h with
  | literal h => simp [classify, Node.unparenthesized, h]
  | @template span before chunk after holes h hbefore =>
    have hfind : (before ++ chunk :: after).find? English.looksEnglish = some chunk := by
      rw [List.find?_append, List.find?_eq_none.2 hbefore, List.find?_cons_of_pos h]
      rfl
    simp [classify, Node.unparenthesized, hfind]
  | paren _ ih => rw [classify_paren, ih]

theorem shows_of_classify_eq_some {value : Node} {f : Finding} (h : classify value = some f) :
    Shows value f := by
  induction value using Node.childrenInduction with
  | step value ih =>
    cases value with
    | string span text =>
      simp only [classify, Node.unparenthesized, Option.ite_none_right_eq_some,
        Option.some.injEq] at h
      obtain ⟨henglish, rfl⟩ := h
      exact .literal henglish
    | template span chunks holes =>
      simp only [classify, Node.unparenthesized, Option.map_eq_some_iff] at h
      obtain ⟨chunk, hfind, rfl⟩ := h
      obtain ⟨henglish, before, after, rfl, hbefore⟩ := List.find?_eq_some_iff_append.1 hfind
      exact .template henglish (by simpa using hbefore)
    | paren span inner => exact .paren (ih inner (by simp [Node.children]) h)
    | _ => simp [classify, Node.unparenthesized] at h

/-- A value is classified exactly by the English text that it shows. -/
theorem classify_eq_some_iff {value : Node} {f : Finding} :
    classify value = some f ↔ Shows value f :=
  ⟨shows_of_classify_eq_some, classify_eq_some_of_shows⟩

theorem Slot.violation?_eq_some_iff {s : Slot} {v : Violation} :
    s.violation? = some v ↔ v.position = s.position ∧ Shows s.value v.toFinding := by
  rw [Slot.violation?, Option.map_eq_some_iff, ← classify_eq_some_iff]
  constructor
  · rintro ⟨f, hf, rfl⟩
    exact ⟨rfl, hf⟩
  · rintro ⟨hposition, hf⟩
    exact ⟨v.toFinding, hf, by rw [← hposition]⟩

/-! ## The walk -/

theorem inspectValue_eq (found : List Violation) (position : Position) (value : Node) :
    inspectValue found position value = (Slot.violation? ⟨position, value⟩).toList ++ found := by
  unfold inspectValue Slot.violation?
  cases classify value <;> rfl

theorem inspectArguments_eq (found : List Violation) (args : List Node) :
    inspectArguments found args =
      (((args.filter isValue).map (Slot.mk .callArgument)).filterMap Slot.violation?).reverse ++
        found := by
  induction args generalizing found with
  | nil => rfl
  | cons arg args ih =>
    cases harg : isValue arg with
    | false =>
      cases arg <;> simp only [isValue, Bool.true_eq_false] at harg
      rw [inspectArguments, ih, List.filter_cons_of_neg (by simp [isValue])]
    | true =>
      rw [inspectArguments.eq_3 _ _ _ (by rintro s inner rfl; simp [isValue] at harg), ih,
        inspectValue_eq, List.filter_cons_of_pos harg]
      cases h : Slot.violation? ⟨.callArgument, arg⟩ <;> simp [h]

/-- What a node adds of its own is the violations in its slots. -/
theorem inspect_eq (e : Exemptions) (found : List Violation) (n : Node) :
    inspect e found n = (ownViolations e n).reverse ++ found := by
  unfold ownViolations
  cases n with
  | assign | logical | returns | declarator =>
    simp only [inspect, slots, inspectValue_eq, List.filterMap_cons, List.filterMap_nil]
    split <;> simp [*]
  | call s link callee args types =>
    simp only [inspect, slots]
    split
    · simp
    · exact inspectArguments_eq found args
  | _ => rfl

theorem collect_eq_foldl (e : Exemptions) (found : List Violation) (n : Node) :
    collect e found n = n.children.foldl (collect e) (inspect e found n) := by
  rw [collect]
  simp

/-- Every sibling adds what is in its tree to what its elder siblings have left. -/
theorem foldl_collect_eq {e : Exemptions} {cs : List Node}
    (h : ∀ c ∈ cs, ∀ found,
      collect e found c = (c.preorder.flatMap (ownViolations e)).reverse ++ found)
    (found : List Violation) :
    cs.foldl (collect e) found =
      ((cs.flatMap Node.preorder).flatMap (ownViolations e)).reverse ++ found := by
  induction cs generalizing found with
  | nil => rfl
  | cons c cs ih =>
    rw [List.foldl_cons, h c List.mem_cons_self, ih fun d hd => h d (List.mem_cons_of_mem _ hd)]
    simp

/-- The walk adds the violations of all nodes that it comes by. -/
theorem collect_eq (e : Exemptions) (found : List Violation) (n : Node) :
    collect e found n = (n.preorder.flatMap (ownViolations e)).reverse ++ found := by
  induction n using Node.childrenInduction generalizing found with
  | step n ih =>
    rw [collect_eq_foldl, foldl_collect_eq ih, inspect_eq, Node.preorder_eq]
    simp

/-- The violations of a program are those of its nodes, in the order in which they are visited. -/
theorem violations_eq_flatMap (e : Exemptions) (program : Node) :
    violations e program = program.preorder.flatMap (ownViolations e) := by
  rw [violations, collect_eq, List.append_nil, List.reverse_reverse]

theorem violations_eq_append (e : Exemptions) (n : Node) :
    violations e n = ownViolations e n ++ n.children.flatMap (violations e) := by
  have hchildren : violations e = fun c => c.preorder.flatMap (ownViolations e) :=
    funext (violations_eq_flatMap e)
  rw [violations_eq_flatMap, Node.preorder_eq, List.flatMap_cons, List.flatMap_assoc, hchildren]

/-- The violations of a program are, in order and with repetitions, the slots of all parts of its
tree whose value shows English text, each with the place, kind and text of what it shows and the
position of the slot. -/
theorem violations_eq_filterMap_slots (e : Exemptions) (program : Node) :
    violations e program = (program.listing.flatMap (slots e)).filterMap Slot.violation? ∧
      ∀ (s : Slot) (v : Violation),
        s.violation? = some v ↔ v.position = s.position ∧ Shows s.value v.toFinding := by
  refine ⟨?_, fun s v => Slot.violation?_eq_some_iff⟩
  rw [violations_eq_flatMap, Node.preorder_eq_listing, List.filterMap_flatMap]
  rfl

end ProseLint
