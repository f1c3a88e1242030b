import Mathlib.Data.List.Flatten
import Mathlib.Data.List.Nodup
import Mathlib.Data.List.Perm.Subperm
import ProseLint.Path
import ProseLint.Proofs.Violation.Slots
import ProseLint.Syntax.Program

/-!
# No literal is reported twice

A slot reports the literal that its value is within any parentheses. The literals of a tree are
parted accordingly: the one that the tree itself is within parentheses (`faceSpans`), if it is one,
and those further down (`innerSpans`). The slots of a node look at the faces of its children, each
at most once, and the children only report what is further down in them. So a tree reports no more
than what is further down in it (`map_span_violations_subperm`), each literal once.
-/

namespace ProseLint

open ProseLint.Syntax (Node Program.parse)
open ProseLint.Text (Span)

namespace Syntax.Node

/-- The span of the literal that a node is within any parentheses, if it is one. -/
def faceSpans (n : Node) : List Span := ([n.unparenthesized].filter isLiteral).map span

/-- The spans of the literals of a tree but the one that it is itself within parentheses. -/
def innerSpans (n : Node) : List Span := n.unparenthesized.children.flatMap literalSpans

theorem unparenthesized_of_ne {n : Node} (h : ∀ s inner, n ≠ paren s inner) :
    n.unparenthesized = n := by
  cases n with
  | paren s inner => exact absurd rfl (h s inner)
  | _ => rfl

theorem literalSpans_eq_append (n : Node) : n.literalSpans = n.faceSpans ++ n.innerSpans := by
  induction n using parenInduction with
  | parens s inner ih =>
    have hparens : (paren s inner).literalSpans = inner.literalSpans := by
      rw [literalSpans_eq]
      simp [isLiteral, children]
    exact hparens.trans ih
  | other n hn => rw [faceSpans, innerSpans, unparenthesized_of_ne hn, literalSpans_eq]

end Syntax.Node

open ProseLint.Syntax.Node (faceSpans innerSpans literalSpans literalSpans_eq_append
  unparenthesized_of_ne)

/-! ## The slots of one node -/

theorem faceSpans_of_shows {value : Node} {f : Finding} (h : Shows value f) :
    faceSpans value = [f.span] := by
  induction h with
  | literal | template => rfl
  | paren _ ih => exact ih

/-- A node reports the faces of its children, each at most once. -/
theorem map_span_ownViolations_sublist (e : Exemptions) (n : Node) :
    ((ownViolations e n).map (·.span)).Sublist (n.children.flatMap faceSpans) := by
  have hslot : ∀ s ∈ slots e n,
      (s.violation?.map (·.span)).toList.Sublist (faceSpans s.value) := by
    intro s _
    cases hs : s.violation? with
    | none => exact List.nil_sublist _
    | some v =>
      rw [faceSpans_of_shows (Slot.violation?_eq_some_iff.1 hs).2]
      exact List.Sublist.refl _
  rw [ownViolations, List.map_filterMap, List.filterMap_eq_flatMap_toList]
  refine (List.Sublist.flatMap_right (slots e n) hslot).trans ?_
  have hvalues := (map_value_slots_sublist e n).flatMap faceSpans
  rwa [List.flatMap_map] at hvalues

/-! ## Whole programs -/

theorem flatMap_subperm {α β : Type} {xs : List α} {f g : α → List β}
    (h : ∀ x ∈ xs, (f x).Subperm (g x)) : (xs.flatMap f).Subperm (xs.flatMap g) := by
  induction xs with
  | nil => exact List.Subperm.refl _
  | cons x xs ih =>
    rw [List.flatMap_cons, List.flatMap_cons]
    exact (h x List.mem_cons_self).append (ih fun y hy => h y (List.mem_cons_of_mem _ hy))

/-- A program reports literals below its outermost parentheses, none more often than it occurs. -/
theorem map_span_violations_subperm (e : Exemptions) (program : Node) :
    ((violations e program).map (·.span)).Subperm program.innerSpans := by
  induction program using Node.childrenInduction with
  | step n ih =>
    rw [violations_eq_append, List.map_append, List.map_flatMap]
    by_cases hn : ∃ s inner, n = .paren s inner
    · -- parentheses have no slots, and what is further down in them is so inside them
      obtain ⟨s, inner, rfl⟩ := hn
      have hinner : (Node.paren s inner).innerSpans = inner.innerSpans := rfl
      rw [hinner]
      simpa [Node.children, ownViolations, slots] using ih inner List.mem_cons_self
    · have hn' : ∀ s inner, n ≠ .paren s inner := fun s inner h => hn ⟨s, inner, h⟩
      have hparts : n.innerSpans = n.children.flatMap fun c => faceSpans c ++ innerSpans c := by
        rw [innerSpans, unparenthesized_of_ne hn']
        exact List.flatMap_congr fun c _ => literalSpans_eq_append c
      rw [hparts]
      refine List.Subperm.trans ?_ (List.flatMap_append_perm _ faceSpans innerSpans).subperm
      exact (map_span_ownViolations_sublist e n).subperm.append (flatMap_subperm ih)

/-- No literal is reported more often than it occurs. -/
theorem map_span_violations_subperm_literalSpans (e : Exemptions) (program : Node) :
    ((violations e program).map (·.span)).Subperm program.literalSpans := by
  rw [literalSpans_eq_append]
  exact (map_span_violations_subperm e program).trans (List.sublist_append_right _ _).subperm

/-- No literal is reported twice: where the literals of a program have different spans, so have its
violations. Each violation is about a literal of the program, and of no literal there are two. -/
theorem nodup_span_violations (e : Exemptions) {program : Node}
    (h : program.literalSpans.Nodup) :
    ((violations e program).map (·.span)).Nodup ∧
      (∀ v ∈ violations e program,
        ∃ n ∈ program.preorder, n.isLiteral ∧ n.span = v.span) ∧
      ∀ v ∈ violations e program, ∀ w ∈ violations e program, v.span = w.span → v = w := by
  have hsubperm := map_span_violations_subperm_literalSpans e program
  have hnodup : ((violations e program).map (·.span)).Nodup := by
    obtain ⟨spans, hperm, hsublist⟩ := hsubperm
    exact hperm.nodup_iff.1 (hsublist.nodup h)
  refine ⟨hnodup, ?_, ?_⟩
  · intro v hv
    have hspan : v.span ∈ program.literalSpans := hsubperm.subset (List.mem_map_of_mem hv)
    obtain ⟨n, hn, heq⟩ := List.mem_map.1 hspan
    obtain ⟨hmem, hliteral⟩ := List.mem_filter.1 hn
    exact ⟨n, hmem, hliteral, heq⟩
  · intro v hv w hw hspan
    exact List.inj_on_of_nodup_map hnodup hv hw hspan

/-- A program with three literals: one in parentheses, one that is a template, and one in it. -/
def nestedLiterals : String := "x = f((\"Some text\"), a || `Some $\x7bb = \"Any text\"\x7d`)"

theorem nodup_span_violations_nestedLiterals : ∃ program,
    Program.parse (Path.dialect "a.js") nestedLiterals.toList = .ok program ∧
      program.literalSpans = [⟨7, 18⟩, ⟨26, 50⟩, ⟨38, 48⟩] ∧
      (violations {} program).map (·.position) = [.callArgument, .logical, .assignment] ∧
      ((violations {} program).map (·.span)).Nodup := by
  have heval : (Program.parse (Path.dialect "a.js") nestedLiterals.toList).toOption.map
      (fun program => (program.literalSpans, (violations {} program).map (·.position))) =
        some ([⟨7, 18⟩, ⟨26, 50⟩, ⟨38, 48⟩], [.callArgument, .logical, .assignment]) := by
    decide +kernel
  cases hparse : Program.parse (Path.dialect "a.js") nestedLiterals.toList with
  | error error =>
    rw [hparse] at heval
    cases heval
  | ok program =>
    rw [hparse] at heval
    obtain ⟨hspans, hpositions⟩ := Prod.mk.inj (Option.some.inj heval)
    refine ⟨program, rfl, hspans, hpositions, (nodup_span_violations {} ?_).1⟩
    rw [hspans]
    decide

end ProseLint
