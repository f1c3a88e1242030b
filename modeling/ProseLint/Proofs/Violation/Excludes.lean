import Mathlib.Data.List.Flatten
import Mathlib.Data.List.Perm.Basic
import ProseLint.Proofs.Violation.Slots

/-!
# More excludes

Exemptions are compared by the calls that they leave alone: `Within e f` says that `f` leaves alone
all calls that `e` does. Going from `e` to `f`, a node either keeps all its own violations or is a
call that loses all of them (`ownViolations_of_within`), so that a whole program loses call
arguments only. `violations_append_excludes` says this of more excludes, and that neither the order
of excludes nor their number counts.
-/

namespace ProseLint

open ProseLint.Syntax (Node)

namespace Exemptions

/-- All calls that the first exemptions leave alone are left alone by the second. -/
def Within (e f : Exemptions) : Prop := ∀ callee, e.exempt callee → f.exempt callee

theorem exempt_ofStrings_iff {texts : List String} {callee : Node} :
    (ofStrings texts).exempt callee ↔
      isBuiltinExempt callee ∨ ∃ text ∈ texts, (Pattern.ofString text).covers callee := by
  simp [exempt, ofStrings]

theorem within_ofStrings_of_subset {texts more : List String} (h : texts ⊆ more) :
    (ofStrings texts).Within (ofStrings more) := by
  intro callee hcallee
  rw [exempt_ofStrings_iff] at hcallee ⊢
  rcases hcallee with hbuiltin | ⟨text, htext, hcovers⟩
  · exact .inl hbuiltin
  · exact .inr ⟨text, h htext, hcovers⟩

end Exemptions

open Exemptions (Within)

/-- The violation is none of a call argument. -/
def Violation.isLasting (v : Violation) : Bool := v.position != .callArgument

/-- With more exemptions a node keeps all its own violations, or it is a call and loses all of
them. -/
theorem ownViolations_of_within {e f : Exemptions} (h : e.Within f) (n : Node) :
    ownViolations f n = ownViolations e n ∨
      ownViolations f n = [] ∧ ∀ v ∈ ownViolations e n, v.position = .callArgument := by
  cases n with
  | call s link callee args types =>
    cases hf : f.exempt callee with
    | true =>
      refine .inr ⟨by simp [ownViolations, slots, hf], fun v hv => ?_⟩
      obtain ⟨slot, hslot, hshows⟩ := List.mem_filterMap.1 hv
      rw [(Slot.violation?_eq_some_iff.1 hshows).1]
      simp only [slots] at hslot
      split at hslot
      · simp at hslot
      · obtain ⟨arg, -, rfl⟩ := List.mem_map.1 hslot
        rfl
    | false =>
      have he : e.exempt callee = false := by
        rw [← Bool.not_eq_true] at hf ⊢
        exact fun hcallee => hf (h callee hcallee)
      exact .inl (by simp [ownViolations, slots, hf, he])
  | _ => exact .inl rfl

/-! ## Whole programs -/

section Within

variable {e f : Exemptions} (h : e.Within f) (program : Node)

include h in
theorem violations_sublist_of_within : (violations f program).Sublist (violations e program) := by
  rw [violations_eq_flatMap, violations_eq_flatMap]
  refine List.Sublist.flatMap_right _ fun n _ => ?_
  rcases ownViolations_of_within h n with heq | ⟨hnil, -⟩
  · rw [heq]
  · rw [hnil]
    exact List.nil_sublist _

include h in
/-- What is no call argument is found with both exemptions, in the same order. -/
theorem filter_isLasting_violations_of_within :
    (violations f program).filter Violation.isLasting =
      (violations e program).filter Violation.isLasting := by
  rw [violations_eq_flatMap, violations_eq_flatMap, List.filter_flatMap, List.filter_flatMap]
  refine List.flatMap_congr fun n _ => ?_
  rcases ownViolations_of_within h n with heq | ⟨hnil, hcall⟩
  · rw [heq]
  · rw [hnil, List.filter_nil, eq_comm, List.filter_eq_nil_iff]
    intro v hv
    simp [Violation.isLasting, hcall v hv]

include h in
/-- What is found with fewer exemptions only are call arguments. -/
theorem violations_perm_append_of_within :
    ∃ lost, (violations e program).Perm (violations f program ++ lost) ∧
      ∀ v ∈ lost, v.position = .callArgument := by
  obtain ⟨lost, hperm⟩ := (violations_sublist_of_within h program).exists_perm_append
  refine ⟨lost, hperm, ?_⟩
  -- the lasting ones among the lost make no difference to the number of lasting violations
  have hlength := (hperm.filter Violation.isLasting).length_eq
  rw [List.filter_append, List.length_append, filter_isLasting_violations_of_within h program]
    at hlength
  have hnone : lost.filter Violation.isLasting = [] := List.length_eq_zero_iff.1 (by omega)
  intro v hv
  simpa [Violation.isLasting] using List.filter_eq_nil_iff.1 hnone v hv

include h in
theorem violations_eq_of_within_of_within (h' : f.Within e) :
    violations e program = violations f program :=
  (violations_sublist_of_within h' program).antisymm (violations_sublist_of_within h program)

end Within

/-- Further excludes take away call arguments only: the violations that are left are some of those
before, in the same order, all that are lost are call arguments, and those in other positions are
the same. Which excludes there are counts, but not their order or how often they are given. -/
theorem violations_append_excludes (program : Node) (excludes more : List String) :
    let found := fun texts => violations (Exemptions.ofStrings texts) program
    (found (excludes ++ more)).Sublist (found excludes) ∧
    (∃ lost, (found excludes).Perm (found (excludes ++ more) ++ lost) ∧
      ∀ v ∈ lost, v.position = .callArgument) ∧
    (found (excludes ++ more)).filter (fun v => v.position != .callArgument) =
      (found excludes).filter (fun v => v.position != .callArgument) ∧
    ∀ others, (∀ text, text ∈ others ↔ text ∈ excludes) → found others = found excludes := by
  intro found
  have hwithin := Exemptions.within_ofStrings_of_subset (List.subset_append_left excludes more)
  refine ⟨violations_sublist_of_within hwithin program,
    violations_perm_append_of_within hwithin program,
    filter_isLasting_violations_of_within hwithin program, fun others hothers => ?_⟩
  exact violations_eq_of_within_of_within
    (Exemptions.within_ofStrings_of_subset fun text => (hothers text).1) program
    (Exemptions.within_ofStrings_of_subset fun text => (hothers text).2)

/-- The program `a(t("Some text"), "Other text")`, whose inner call is that of `t`. -/
def nestedCalls : Node :=
  .call ⟨0, 31⟩ .plain (.identifier ⟨0, 1⟩ "a")
    [.call ⟨2, 16⟩ .plain (.identifier ⟨2, 3⟩ "t") [.string ⟨4, 15⟩ "Some text"] [],
      .string ⟨18, 30⟩ "Other text"] []

theorem violations_append_excludes_nestedCalls :
    let found := fun texts => violations (Exemptions.ofStrings texts) nestedCalls
    found ["b"] = [⟨⟨⟨18, 30⟩, .literal, "Other text"⟩, .callArgument⟩,
      ⟨⟨⟨4, 15⟩, .literal, "Some text"⟩, .callArgument⟩] ∧
    found (["b"] ++ ["t"]) = [⟨⟨⟨18, 30⟩, .literal, "Other text"⟩, .callArgument⟩] ∧
    (found (["b"] ++ ["t"])).Sublist (found ["b"]) ∧
    (∀ text, text ∈ ["t", "b", "t"] ↔ text ∈ ["b", "t"]) ∧
    found ["t", "b", "t"] = found ["b", "t"] := by
  intro found
  have hsame : ∀ text, text ∈ ["t", "b", "t"] ↔ text ∈ ["b", "t"] := by
    intro text
    simp only [List.mem_cons, List.not_mem_nil, or_false]
    tauto
  refine ⟨?_, ?_, (violations_append_excludes nestedCalls ["b"] ["t"]).1, hsame,
    (violations_append_excludes nestedCalls ["b", "t"] []).2.2.2 _ hsame⟩
  · simp only [found, violations_eq_flatMap, Node.preorder_eq_listing]
    decide
  · simp only [found, violations_eq_flatMap, Node.preorder_eq_listing]
    decide

end ProseLint
